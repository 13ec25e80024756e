import Mathlib.Logic.Basic
import PolicyOperator.Engine.Rules

/-!
# The scope of a condition

A condition is put between parentheses before the clauses of a target follow it, and a value between
double quotes. Neither is escaped.

* A text is read from the left (`Text.Reading`); parentheses in strings do not count. The
  parenthesis before a condition is closed by the one after it exactly if the condition is
  `Balanced` (`Text.closing?_eq_iff`).
* Where a value without double quotes ends can be told (`quoted_inj`), so clauses can be told apart
  from what follows them (`asked_inj`), and targets by their texts (`scope_inj`).

`confined_iff` puts both together. Other conditions and values do escape (`scope_escaped`).
-/

namespace PolicyOperator

namespace Text

/-! ## Parentheses -/

/-- What a reader of a text knows: how many parentheses are open, and whether a string is. -/
structure Reading where
  depth : Int := 0
  quoted : Bool := false
  deriving DecidableEq

namespace Reading

variable {r : Reading} {c : Char}

/-- Reads on. Parentheses in a double-quoted string do not count. -/
def step (r : Reading) (c : Char) : Reading :=
  if c = '"' then { r with quoted := !r.quoted }
  else if r.quoted then r
  else if c = '(' then { r with depth := r.depth + 1 }
  else if c = ')' then { r with depth := r.depth - 1 }
  else r

/-- The same within one more parenthesis. -/
def inner (r : Reading) : Reading := { r with depth := r.depth + 1 }

@[simp] theorem depth_inner (r : Reading) : r.inner.depth = r.depth + 1 := rfl

theorem step_inner (r : Reading) (c : Char) : r.inner.step c = (r.step c).inner := by
  unfold step inner
  grind

theorem le_depth_step (r : Reading) (c : Char) : r.depth - 1 ≤ (r.step c).depth := by
  unfold step
  grind

/-- A parenthesis that closes counts unless a string is open. -/
theorem depth_step_close (r : Reading) :
    (r.step ')').depth = if r.quoted then r.depth else r.depth - 1 := by
  unfold step
  grind

end Reading

/-- What is known after a text. -/
def read (cs : List Char) : Reading := cs.foldl Reading.step {}

@[simp] theorem read_nil : read [] = {} := rfl

theorem read_concat (cs : List Char) (c : Char) : read (cs ++ [c]) = (read cs).step c := by
  rw [read, List.foldl_append]
  rfl

theorem read_open (cs : List Char) : read ('(' :: cs) = (read cs).inner :=
  List.foldl_hom Reading.inner Reading.step_inner

/-- The parentheses of a text match, and its strings end. -/
def Balanced (cs : List Char) : Prop :=
  read cs = {} ∧ ∀ n ≤ cs.length, 0 ≤ (read (cs.take n)).depth

instance (cs : List Char) : Decidable (Balanced cs) := inferInstanceAs (Decidable (_ ∧ _))

/-- Where the parenthesis at the front of a text is closed: the first place after which none is
open. -/
def closing? (cs : List Char) : Option Nat :=
  (List.range cs.length).find? fun i => (read (cs.take (i + 1))).depth = 0

/-- A text does not get below where it began without being right below it. -/
theorem depth_nonneg {cs : List Char} (h : ∀ n ≤ cs.length, (read (cs.take n)).depth ≠ -1) :
    ∀ n ≤ cs.length, 0 ≤ (read (cs.take n)).depth := by
  intro n hn
  induction n with
  | zero => simp
  | succ n ih =>
    have hnonneg := ih (by omega)
    have hne := h (n + 1) hn
    have := (read (cs.take n)).le_depth_step cs[n]
    rw [List.take_succ_eq_append_getElem hn, read_concat] at hne ⊢
    omega

/-- A parenthesis around a text is the one that closes what was opened before it, exactly if the
text is balanced. -/
theorem closing?_eq_iff (cs rest : List Char) :
    closing? ('(' :: cs ++ ')' :: rest) = some (cs.length + 1) ↔ Balanced cs := by
  have hinner : ∀ i ≤ cs.length,
      (read (('(' :: cs ++ ')' :: rest).take (i + 1))).depth = (read (cs.take i)).depth + 1 := by
    intro i hi
    rw [List.cons_append, List.take_succ_cons, read_open, Reading.depth_inner,
      List.take_append_of_le_length hi]
  have hclose : (read (('(' :: cs ++ ')' :: rest).take (cs.length + 1 + 1))).depth =
      ((read cs).step ')').depth + 1 := by
    rw [List.cons_append, List.take_succ_cons, read_open, Reading.depth_inner, ← read_concat,
      List.take_append, List.take_of_length_le (by omega)]
    simp
  rw [closing?, List.find?_range_eq_some]
  simp only [decide_eq_true_eq, hclose, Bool.not_eq_true', decide_eq_false_iff_not]
  constructor
  · rintro ⟨hlast, -, hfirst⟩
    have hnonneg : ∀ n ≤ cs.length, 0 ≤ (read (cs.take n)).depth := depth_nonneg fun n hn => by
      have := hfirst n (by omega)
      rw [hinner n hn] at this
      omega
    refine ⟨?_, hnonneg⟩
    have hend := hnonneg cs.length (Nat.le_refl _)
    rw [List.take_length] at hend
    rw [Reading.depth_step_close] at hlast
    rcases hread : read cs with ⟨depth, _ | _⟩ <;> simp only [hread] at hlast hend
    · obtain rfl : depth = 0 := by simpa using hlast
      rfl
    · simp at hlast
      omega
  · rintro ⟨hread, hnonneg⟩
    refine ⟨by rw [hread]; rfl, by simp, fun i hi => ?_⟩
    have := hnonneg i (by omega)
    rw [hinner i (by omega)]
    omega

end Text

namespace Target

open Text

/-! ## Clauses -/

/-- No value has a double quote in it. -/
def Plain (values : List String) : Prop := ∀ v ∈ values, '"' ∉ v.toList

instance (values : List String) : Decidable (Plain values) :=
  inferInstanceAs (Decidable (∀ _ ∈ _, _))

/-- Where a string without double quotes ends is seen in any text. -/
theorem quoted_inj {cs ds rest rest' : List Char} (hcs : '"' ∉ cs) (hds : '"' ∉ ds)
    (h : cs ++ '"' :: rest = ds ++ '"' :: rest') : cs = ds ∧ rest = rest' := by
  induction cs generalizing ds with
  | nil =>
    cases ds with
    | nil => exact ⟨rfl, (List.cons.inj h).2⟩
    | cons d ds => exact absurd (List.cons.inj h).1 (by simp at hds; exact hds.1)
  | cons c cs ih =>
    cases ds with
    | nil => exact absurd (List.cons.inj h).1.symm (by simp at hcs; exact hcs.1)
    | cons d ds =>
      obtain ⟨rfl, htail⟩ := List.cons.inj h
      obtain ⟨rfl, hrest⟩ := ih (fun hc => hcs (List.mem_cons_of_mem _ hc))
        (fun hd => hds (List.mem_cons_of_mem _ hd)) htail
      exact ⟨rfl, hrest⟩

/-- A value as a string. -/
def quote (v : String) : String := "\"" ++ v ++ "\""

/-- The values of a list after its first, up to the parenthesis at its end. -/
def following : List String → List Char
  | [] => [')']
  | v :: values => ',' :: ' ' :: '"' :: v.toList ++ '"' :: following values

/-- A clause as a reader meets it. -/
def asked (field : String) : List String → List Char
  | [] => []
  | [v] => field.toList ++ ([' ', '=', ' ', '"'] ++ (v.toList ++ ['"']))
  | v :: values =>
    field.toList ++ ([' ', 'i', 'n', ' ', '(', '"'] ++ (v.toList ++ '"' :: following values))

theorem toList_intercalate_quoted (v : String) (values : List String) :
    (", ".intercalate ((v :: values).map quote) ++ ")").toList =
      '"' :: v.toList ++ '"' :: following values := by
  induction values generalizing v with
  | nil => simp [quote, following, String.intercalate_singleton]
  | cons w values ih =>
    have hcons : ", ".intercalate ((v :: w :: values).map quote) =
        quote v ++ ", " ++ ", ".intercalate ((w :: values).map quote) :=
      String.intercalate_cons_cons
    rw [hcons, String.append_assoc, String.toList_append, ih]
    simp [quote, following]

@[simp] theorem clause?_nil (field : String) : clause? field [] = none := rfl

theorem exists_clause (field : String) {values : List String} (h : values ≠ []) :
    ∃ text, clause? field values = some text ∧ text.toList = asked field values := by
  match values, h with
  | [v], _ => exact ⟨_, rfl, by simp [asked]⟩
  | v :: w :: values, _ =>
    refine ⟨field ++ " in (" ++ (", ".intercalate ((v :: w :: values).map quote) ++ ")"), ?_, ?_⟩
    · rw [← String.append_assoc]
      rfl
    · rw [String.toList_append, toList_intercalate_quoted]
      simp [asked]

theorem following_inj {values values' : List String} {rest rest' : List Char}
    (hplain : Plain values) (hplain' : Plain values')
    (h : following values ++ rest = following values' ++ rest') :
    values = values' ∧ rest = rest' := by
  induction values generalizing values' with
  | nil =>
    cases values' with
    | nil => exact ⟨rfl, by simpa [following] using h⟩
    | cons w values' => exact absurd h (by simp [following])
  | cons v values ih =>
    cases values' with
    | nil => exact absurd h (by simp [following])
    | cons w values' =>
      simp only [following, List.append_assoc, List.cons_append, List.cons.injEq, true_and] at h
      obtain ⟨hvalue, htail⟩ := quoted_inj (hplain v List.mem_cons_self)
        (hplain' w List.mem_cons_self) h
      obtain ⟨hvalues, hrest⟩ := ih (fun u hu => hplain u (List.mem_cons_of_mem _ hu))
        (fun u hu => hplain' u (List.mem_cons_of_mem _ hu)) htail
      exact ⟨by rw [String.toList_inj.1 hvalue, hvalues], hrest⟩

/-- A clause says which values it asks for, whatever follows it. -/
theorem asked_inj {field : String} {values values' : List String} {rest rest' : List Char}
    (hplain : Plain values) (hplain' : Plain values') (hne : values ≠ []) (hne' : values' ≠ [])
    (h : asked field values ++ rest = asked field values' ++ rest') :
    values = values' ∧ rest = rest' := by
  obtain ⟨v, values, rfl⟩ := List.exists_cons_of_ne_nil hne
  obtain ⟨w, values', rfl⟩ := List.exists_cons_of_ne_nil hne'
  have hv := hplain v List.mem_cons_self
  have hw := hplain' w List.mem_cons_self
  rcases values with _ | ⟨v', values⟩ <;> rcases values' with _ | ⟨w', values'⟩ <;>
    simp only [asked, List.append_assoc, List.append_cancel_left_eq, List.cons_append,
      List.nil_append, List.cons.injEq, true_and] at h
  · obtain ⟨hvalue, hrest⟩ := quoted_inj hv hw h
    exact ⟨by rw [String.toList_inj.1 hvalue], hrest⟩
  · exact absurd h.1 (by decide)
  · exact absurd h.1 (by decide)
  · obtain ⟨hvalue, htail⟩ := quoted_inj hv hw h
    obtain ⟨hvalues, hrest⟩ := following_inj (fun u hu => hplain u (List.mem_cons_of_mem _ hu))
      (fun u hu => hplain' u (List.mem_cons_of_mem _ hu)) htail
    exact ⟨by rw [String.toList_inj.1 hvalue, hvalues], hrest⟩

/-! ## Conditions -/

variable {t t' : Target} {condition : String}

/-- The target asks for something. -/
def Selects (t : Target) : Prop := t.namespaces ≠ [] ∨ t.nodes ≠ []

instance (t : Target) : Decidable t.Selects := inferInstanceAs (Decidable (_ ∨ _))

/-- What follows the condition, up to the last parenthesis, as a reader meets it. -/
def demanded (t : Target) : List Char :=
  asked "k8s.ns.name" t.namespaces ++
    ((if t.namespaces ≠ [] ∧ t.nodes ≠ [] then " and ".toList else []) ++
      (asked "k8s.node.name" t.nodes ++ [')']))

theorem toList_scope (h : t.Selects) (condition : String) :
    (t.scope condition).toList =
      '(' :: (trimmed condition).toList ++ ')' :: (" and (".toList ++ t.demanded) := by
  rcases t with ⟨_ | ⟨v, namespaces⟩, _ | ⟨w, nodes⟩⟩
  · exact absurd h (by decide)
  · obtain ⟨b, hb, htext⟩ := exists_clause "k8s.node.name" (List.cons_ne_nil w nodes)
    simp [scope, clauses, hb, demanded, asked, htext]
  · obtain ⟨a, ha, htext⟩ := exists_clause "k8s.ns.name" (List.cons_ne_nil v namespaces)
    simp [scope, clauses, ha, demanded, asked, htext]
  · obtain ⟨a, ha, htext⟩ := exists_clause "k8s.ns.name" (List.cons_ne_nil v namespaces)
    obtain ⟨b, hb, htext'⟩ := exists_clause "k8s.node.name" (List.cons_ne_nil w nodes)
    simp [scope, clauses, ha, hb, demanded, htext, htext']

theorem scope_of_not_selects (h : ¬ t.Selects) (condition : String) :
    t.scope condition = trimmed condition := by
  obtain ⟨hnamespaces, hnodes⟩ := not_or.1 h
  rw [scope, clauses, not_not.1 hnamespaces, not_not.1 hnodes]
  rfl

/-- A clause for namespaces is none for nodes. -/
theorem asked_ne_asked {values values' : List String} {rest rest' : List Char}
    (hne : values ≠ []) (hne' : values' ≠ []) :
    asked "k8s.ns.name" values ++ rest ≠ asked "k8s.node.name" values' ++ rest' := by
  obtain ⟨v, values, rfl⟩ := List.exists_cons_of_ne_nil hne
  obtain ⟨w, values', rfl⟩ := List.exists_cons_of_ne_nil hne'
  rcases values with _ | ⟨v', values⟩ <;> rcases values' with _ | ⟨w', values'⟩ <;>
    simp [asked]

/-- A reader can tell the values of the target from what is around them. -/
structure Readable (t : Target) : Prop where
  namespaces : Plain t.namespaces
  nodes : Plain t.nodes

theorem demanded_inj (h : t.Selects) (h' : t'.Selects) (hr : t.Readable) (hr' : t'.Readable)
    (heq : t.demanded = t'.demanded) : t = t' := by
  obtain ⟨namespaces, nodes⟩ := t
  obtain ⟨namespaces', nodes'⟩ := t'
  simp only [demanded] at heq
  by_cases hns : namespaces = [] <;> by_cases hns' : namespaces' = []
  · subst hns hns'
    have heqnodes : asked "k8s.node.name" nodes ++ [')'] = asked "k8s.node.name" nodes' ++ [')'] :=
      heq
    obtain ⟨rfl, -⟩ := asked_inj hr.nodes hr'.nodes (h.resolve_left (not_not.2 rfl))
      (h'.resolve_left (not_not.2 rfl)) heqnodes
    rfl
  · subst hns
    exact absurd heq.symm (asked_ne_asked hns' (h.resolve_left (not_not.2 rfl)))
  · subst hns'
    exact absurd heq (asked_ne_asked hns (h'.resolve_left (not_not.2 rfl)))
  · obtain ⟨rfl, heq⟩ := asked_inj hr.namespaces hr'.namespaces hns hns' heq
    by_cases hnodes : nodes = [] <;> by_cases hnodes' : nodes' = []
    · rw [hnodes, hnodes']
    · simp [hns, hnodes, hnodes', asked] at heq
    · simp [hns, hnodes, hnodes', asked] at heq
    · rw [if_pos ⟨hns, hnodes⟩, if_pos ⟨hns, hnodes'⟩, List.append_cancel_left_eq] at heq
      obtain ⟨rfl, -⟩ := asked_inj hr.nodes hr'.nodes hnodes hnodes' heq
      rfl

theorem scope_inj (hr : t.Readable) (hr' : t'.Readable)
    (heq : t.scope condition = t'.scope condition) : t = t' := by
  by_cases h : t.Selects <;> by_cases h' : t'.Selects
  · have hchars := congrArg String.toList heq
    rw [toList_scope h, toList_scope h'] at hchars
    exact demanded_inj h h' hr hr' (by simpa using hchars)
  · have hlength := congrArg (fun text => text.toList.length) heq
    simp only [toList_scope h, scope_of_not_selects h', List.length_cons,
      List.length_append] at hlength
    omega
  · have hlength := congrArg (fun text => text.toList.length) heq
    simp only [toList_scope h', scope_of_not_selects h, List.length_cons,
      List.length_append] at hlength
    omega
  · obtain ⟨hnamespaces, hnodes⟩ := not_or.1 h
    obtain ⟨hnamespaces', hnodes'⟩ := not_or.1 h'
    rw [not_not] at hnamespaces hnodes hnamespaces' hnodes'
    obtain ⟨namespaces, nodes⟩ := t
    obtain ⟨namespaces', nodes'⟩ := t'
    subst hnamespaces hnodes hnamespaces' hnodes'
    rfl

/-- The condition that a scoped text begins with is one conjunct: the parenthesis before it is
closed by the one after it. -/
def Confined (t : Target) (condition : String) : Prop :=
  closing? (t.scope condition).toList = some ((trimmed condition).toList.length + 1)

/-- A condition is one conjunct of its scoped text exactly if it is balanced. Targets whose values
have no double quotes have different texts. -/
theorem confined_iff (t t' : Target) (condition : String) :
    (t.Selects → (t.Confined condition ↔ Balanced (trimmed condition).toList)) ∧
      (t.Readable → t'.Readable → t.scope condition = t'.scope condition → t = t') := by
  refine ⟨fun h => ?_, scope_inj⟩
  rw [Confined, toList_scope h]
  exact closing?_eq_iff _ _

namespace Sample

def shop : Target := { namespaces := ["shop"] }

/-- A policy for one namespace, with a rule that has the given condition. -/
def policy (condition : String) : Policy where
  metadata := { name := some "shells", ns := some "ops" }
  spec :=
    { type := "falco"
      target := shop
      falco := some { rules := [{
        name := "shell"
        condition := condition
        output := "shell in %container.name"
        priority := "WARNING" }] } }

end Sample

theorem confined_sample :
    Sample.shop.Confined "a or (b)" ∧
      Sample.shop.scope "a" ≠ scope { namespaces := ["shop", "web"] } "a" := by
  constructor
  · exact ((confined_iff Sample.shop {} "a or (b)").1 (by decide)).2 (by decide)
  · intro h
    have heq := (confined_iff Sample.shop { namespaces := ["shop", "web"] } "a").2
      ⟨by decide, by decide⟩ ⟨by decide, by decide⟩ h
    exact absurd heq (by decide)

/-- A condition that closes the parenthesis before it, and a value that closes its string. -/
theorem scope_escaped :
    Engine.Rules.validate (Sample.policy "a) or (b") = .ok () ∧
      Sample.shop.scope "a) or (b" = "(a) or (b) and (k8s.ns.name = \"shop\")" ∧
      closing? (Sample.shop.scope "a) or (b").toList = some 2 ∧
      ¬ Sample.shop.Confined "a) or (b" ∧
      scope { namespaces := ["shop\", \"ops", "web"] } "evt.type = execve" =
        scope { namespaces := ["shop", "ops", "web"] } "evt.type = execve" :=
  ⟨rfl, rfl, rfl, nofun, rfl⟩

end Target

end PolicyOperator
