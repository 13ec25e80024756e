import PolicyOperator.ApiServer.Objects
import PolicyOperator.Proofs.ApiServer.Target
import PolicyOperator.Proofs.Computation
import PolicyOperator.Store

/-!
# Selections by text

A store tests the labels of each object, while the API server is sent a text and reads requirements
off it. Both select the same (`ApiServer.selectsAlike_of_plain`) by a selector whose keys and values
have none of the marks of requirements in them (`Selector.Plain`).

* The requirements that are read are the pairs of the selector (`Selector.requirements?_toText`), so
  other selectors have other texts (`Selector.toText_inj`). Without pairs no text is sent, since an
  empty text is not a requirement (`Selector.requirements?_empty`).
* A list sends one request, and what arrives has the parameter (`ApiServer.requests_list`).
* What a store lists is picked from all objects by their labels (`Store.list_eq_filter`).
-/

namespace PolicyOperator

namespace ApiServer

/-! ## What the server reads -/

/-- The requirement that a text writes as `key=value`. -/
def requirement? (part : List Char) : Option (String × String) :=
  match part.splitOn '=' with
  | [key, value] => some (String.ofList key, String.ofList value)
  | _ => none

/-- The requirements that a text writes, with commas between. -/
def requirements? (text : String) : Option (List (String × String)) :=
  (text.toList.splitOn ',').mapM requirement?

/-- The labels meet all requirements of a selector parameter. Without one nothing is required, and
what cannot be read is met by nothing. -/
def admits (param : Option String) (labels : Option TextMap) : Bool :=
  match param with
  | none => true
  | some text => (requirements? text).any fun required =>
    required.all fun (key, value) => labels.bind (·.get? key) == some value

/-- The selector parameter of a request. -/
def Request.selector? (r : Request) : Option String := r.target.query.lookup "labelSelector"

end ApiServer

namespace Selector

open ApiServer

/-- The text has none of the marks that part requirements. -/
def IsPlain (s : String) : Prop := ',' ∉ s.toList ∧ '=' ∉ s.toList

instance (s : String) : Decidable (IsPlain s) := inferInstanceAs (Decidable (_ ∧ _))

/-- All keys and values are plain. -/
def Plain (selector : Selector) : Prop := ∀ e ∈ selector.entries, IsPlain e.1 ∧ IsPlain e.2

instance (selector : Selector) : Decidable selector.Plain :=
  List.decidableBAll _ selector.entries

/-- The parameter that asks for a selector; an empty one is not asked for. -/
def param? (selector : Selector) : Option String :=
  if selector.entries.isEmpty then none else some selector.toText

/-- The query of a list. -/
def query (selector : Selector) : List (String × String) :=
  (selector.param?.map fun text => ("labelSelector", text)).toList

variable {selector selector' : Selector}

theorem lookup_query (selector : Selector) :
    selector.query.lookup "labelSelector" = selector.param? := by
  unfold query
  cases selector.param? <;> rfl

/-! ## Texts of selectors -/

/-- A pair as a reader meets it. -/
def pair (e : String × String) : List Char := e.1.toList ++ '=' :: e.2.toList

theorem requirement?_pair {e : String × String} (hkey : IsPlain e.1) (hvalue : IsPlain e.2) :
    requirement? (pair e) = some e := by
  have hparts : (pair e).splitOn '=' = [e.1.toList, e.2.toList] := by
    rw [pair, List.splitOn_append_cons_self_of_not_mem hkey.2, List.splitOn_eq_singleton hvalue.2]
  rw [requirement?, hparts]
  simp only [String.ofList_toList]

theorem comma_notMem_pair {e : String × String} (hkey : IsPlain e.1) (hvalue : IsPlain e.2) :
    ',' ∉ pair e := by
  intro hmem
  rcases List.mem_append.1 hmem with hmem | hmem
  · exact hkey.1 hmem
  · rcases List.mem_cons.1 hmem with heq | hmem
    · exact absurd heq (by decide)
    · exact hvalue.1 hmem

theorem mapM_requirement?_pair {l : List (String × String)}
    (h : ∀ e ∈ l, IsPlain e.1 ∧ IsPlain e.2) : (l.map pair).mapM requirement? = some l := by
  induction l with
  | nil => rfl
  | cons e l ih =>
    obtain ⟨hkey, hvalue⟩ := h e List.mem_cons_self
    rw [List.map_cons, List.mapM_cons, requirement?_pair hkey hvalue,
      ih fun e' he' => h e' (List.mem_cons_of_mem _ he')]
    rfl

theorem toList_toText (selector : Selector) :
    selector.toText.toList = [','].intercalate (selector.entries.map pair) := by
  rw [toText, String.toList_intercalate, List.map_map]
  congr 1
  refine List.map_congr_left fun e _ => ?_
  simp [pair]

/-- What is read is what was asked for. -/
theorem requirements?_toText (h : selector.Plain) (hne : selector.entries ≠ []) :
    requirements? selector.toText = some selector.entries := by
  have hcomma : ∀ part ∈ selector.entries.map pair, ',' ∉ part := by
    intro part hpart
    obtain ⟨e, he, rfl⟩ := List.mem_map.1 hpart
    exact comma_notMem_pair (h e he).1 (h e he).2
  rw [requirements?, toList_toText, List.splitOn_intercalate _ hcomma (by simpa using hne)]
  exact mapM_requirement?_pair h

/-- Nothing is not a requirement. -/
theorem requirements?_empty : requirements? "" = none := rfl

theorem toText_of_empty (h : selector.entries = []) : selector.toText = "" := by
  rw [toText, h]
  rfl

theorem admits_param? (h : selector.Plain) (labels : Option TextMap) :
    admits selector.param? labels = selector.accepts labels := by
  by_cases hempty : selector.entries = []
  · simp [param?, accepts, admits, hempty]
  · rw [param?, if_neg (by simpa using hempty), admits]
    simp only [requirements?_toText h hempty, Option.any_some, accepts]

theorem toText_inj (h : selector.Plain) (h' : selector'.Plain)
    (heq : selector.toText = selector'.toText) : selector = selector' := by
  have hread := congrArg requirements? heq
  have hentries : selector.entries = selector'.entries := by
    by_cases hempty : selector.entries = [] <;> by_cases hempty' : selector'.entries = []
    · rw [hempty, hempty']
    · rw [toText_of_empty hempty, requirements?_empty, requirements?_toText h' hempty'] at hread
      exact nomatch hread
    · rw [toText_of_empty hempty', requirements?_empty, requirements?_toText h hempty] at hread
      exact nomatch hread
    · rw [requirements?_toText h hempty, requirements?_toText h' hempty'] at hread
      exact Option.some.inj hread
  rw [← SortedMap.ofList_entries selector, hentries, SortedMap.ofList_entries]

/-- With a comma in a value, two selectors may have the same text. -/
example : toText (.ofList [("a", "1,b=2")]) = toText (.ofList [("a", "1"), ("b", "2")]) := by
  decide +kernel

end Selector

namespace ApiServer

variable {k : ResourceKind} {ns : Option String} {selector : Selector}

/-! ## Requests -/

/-- A request whose target can be written is sent once, whatever becomes of it. -/
theorem ends_send {method : Method} {text : String} {target : Target} {body : Option Json}
    (htarget : Target.ofText? text = some target) (c : Connection) :
    let sent : Request := ⟨method, target, body⟩
    Ends (send method text body) c (fun _ c' => c'.requests = c.requests ++ [sent])
      fun _ c' => c'.requests = c.requests ++ [sent] := by
  intro sent
  unfold send
  simp only [htarget, ends_bind, ends_get, ends_set]
  split
  · exact rfl
  · split
    · exact rfl
    · split <;> exact rfl

theorem ends_decoded {α : Type} (read : Draft → Option α) (j : Draft) (c : Connection) :
    Ends (decoded read j) c (fun _ c' => c' = c) fun _ c' => c' = c := by
  unfold decoded
  split <;> exact rfl

theorem requests_request {method : Method} {text : String} {target : Target} {body : Option Json}
    (htarget : Target.ofText? text = some target) {α : Type} (read : Draft → Option α)
    (c : Connection) :
    (request method text body read c).2.requests = c.requests ++ [⟨method, target, body⟩] := by
  refine Ends.state
    (P := fun c' : Connection => c'.requests = c.requests ++ [⟨method, target, body⟩]) ?_
  rw [request, ends_bind]
  refine (ends_send htarget c).mono (fun answer c' hsent => ?_) fun _ _ hsent => hsent
  cases answer with
  | ok j =>
    refine (ends_decoded read j c').mono (fun _ c'' heq => ?_) fun _ c'' heq => ?_ <;>
    · subst heq
      exact hsent
  | error refusal => exact hsent

theorem list_eq (k : ResourceKind) (ns : Option String) (selector : Selector) :
    list k ns selector =
      request .get (Target.textOf (collectionPath k ns) selector.query) none (listed? k) := by
  unfold list Selector.query Selector.param?
  by_cases h : selector.entries.isEmpty = true <;> simp [h]

theorem whole_append {a b : String} (ha : Target.Whole a) (hb : Target.Whole b) :
    Target.Whole (a ++ b) := by
  intro c hc
  rw [String.toList_append, List.mem_append] at hc
  exact hc.elim (ha c) (hb c)

/-- The place of a collection is whole if the name of the namespace is. -/
theorem whole_collectionPath (hns : ∀ n ∈ ns, Target.Whole n) :
    Target.Whole (collectionPath k ns) := by
  have hbase : Target.Whole (base k) := by cases k <;> decide
  have hplural : Target.Whole k.plural := by cases k <;> decide
  cases ns with
  | none => exact whole_append (whole_append hbase (by decide)) hplural
  | some n =>
    exact whole_append (whole_append (whole_append (whole_append hbase (by decide))
      (hns n rfl)) (by decide)) hplural

/-- What a list asks for arrives. -/
theorem requests_list (hns : ∀ n ∈ ns, Target.Whole n)
    (hsize : (Target.textOf (collectionPath k ns) selector.query).utf8ByteSize ≤ Target.maxSize)
    (c : Connection) :
    (list k ns selector c).2.requests =
      c.requests ++ [⟨.get, ⟨collectionPath k ns, selector.query⟩, none⟩] := by
  rw [list_eq]
  exact requests_request (Target.ofText?_textOf (whole_collectionPath hns) hsize) _ c

end ApiServer

/-! ## Lists -/

namespace Store

/-- A selector picks from what is listed without one. -/
theorem list_eq_filter {k : ResourceKind} (s : Store k) (ns : Option String)
    (selector : Selector) :
    s.list ns selector =
      (s.list ns ∅).filter fun o => selector.accepts o.metadata.labels := by
  have hall : ∀ labels, Selector.accepts ∅ labels = true := fun _ => rfl
  simp only [list, hall, Bool.and_true, List.filter_map, List.filter_filter]
  congr 2
  funext e
  exact Bool.and_comm _ _

end Store

namespace ApiServer

variable {selector : Selector}

/-- A store and the API server select the same by a selector. -/
structure SelectsAlike (selector : Selector) : Prop where
  /-- The labels that meet what is asked for are those that the selector accepts. -/
  admits : ∀ labels, admits selector.param? labels = selector.accepts labels
  /-- A list asks for the selector and nothing else. -/
  asked : ∀ k ns, list k ns selector =
    request .get (Target.textOf (collectionPath k ns) selector.query) none (listed? k)
  /-- What arrives is what is asked for. -/
  arrives : ∀ k ns (c : Connection), (∀ n ∈ ns, Target.Whole n) →
    (Target.textOf (collectionPath k ns) selector.query).utf8ByteSize ≤ Target.maxSize →
    ∃ sent : Request, (list k ns selector c).2.requests = c.requests ++ [sent] ∧
      sent.target.path = collectionPath k ns ∧ sent.selector? = selector.param?
  /-- A store lists what the parameter asks for. -/
  listed : ∀ k (s : Store k) ns, s.list ns selector =
    (s.list ns ∅).filter fun o => ApiServer.admits selector.param? o.metadata.labels
  /-- No other selector has the same text. -/
  distinct : ∀ selector' : Selector, selector'.Plain →
    selector.toText = selector'.toText → selector = selector'

theorem selectsAlike_of_plain (h : selector.Plain) : SelectsAlike selector where
  admits := Selector.admits_param? h
  asked k ns := list_eq k ns selector
  arrives k ns c hns hsize :=
    ⟨_, requests_list hns hsize c, rfl, Selector.lookup_query selector⟩
  listed k s ns := by
    simp only [Selector.admits_param? h]
    exact s.list_eq_filter ns selector
  distinct selector' h' heq := Selector.toText_inj h h' heq

/-- The artifacts of a policy in one namespace, by their labels, on a new connection, and apart from
those of all namespaces. -/
theorem selectsAlike_sample :
    let everywhere := Labels.ofPolicyName "images"
    let selector := Labels.inNamespace everywhere "shop"
    selector.Plain ∧ admits selector.param? (some (selector.insert "tier" "web")) = true ∧
      admits selector.param? (some everywhere) = false ∧
      admits selector.param? none = false ∧
      (∃ sent : Request, (list .job (some "shop") selector {}).2.requests = [sent] ∧
        sent.selector? = some ("app.kubernetes.io/managed-by=eirenyx," ++
          "eirenyx.eirenyx/policy-name=images,eirenyx.eirenyx/policy-namespace=shop")) ∧
      selector.toText ≠ everywhere.toText := by
  intro everywhere selector
  have hplain : selector.Plain := by decide
  have halike := selectsAlike_of_plain hplain
  have htext : selector.param? = some ("app.kubernetes.io/managed-by=eirenyx," ++
      "eirenyx.eirenyx/policy-name=images,eirenyx.eirenyx/policy-namespace=shop") := by
    decide +kernel
  have hns : ∀ n ∈ some "shop", Target.Whole n := by
    intro n hn
    obtain rfl := Option.some.inj hn
    decide
  obtain ⟨sent, hsent, -, hselector⟩ :=
    halike.arrives .job (some "shop") {} hns (by decide +kernel)
  simp only [halike.admits]
  refine ⟨hplain, by decide, by decide, by decide, ⟨sent, hsent, hselector.trans htext⟩, ?_⟩
  intro heq
  exact absurd (halike.distinct everywhere (by decide) heq) (by decide)

end ApiServer

end PolicyOperator
