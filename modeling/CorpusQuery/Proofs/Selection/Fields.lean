import CorpusQuery.Proofs.Store.Lexeme
import CorpusQuery.Selection

namespace CorpusQuery

/-!
# Fields as paths

A template starts with a mark for what the attribute belongs to, and goes on
with names.  Filled in at a word position it is a path: the mark becomes the
alias that is bound there, or the way from that alias to a work, and the names
stay as they are.
-/

/-- How a template starts. -/
def Entity.mark : Entity -> String
  | .word => "%w"
  | .wordPart => "wp%i"
  | .work => "%pwork"
  | .workPart => "%pworkPart"

/-- The names of a template after its mark. -/
def Attribute.steps (attr : Attribute) : List String :=
  (Store.dotted attr.entry.template).tail

theorem Attribute.template_eq (attr : Attribute) :
    attr.entry.template = Text.join "." (attr.entity.mark :: attr.steps) ∧
      attr.steps.all Store.isName = true := by
  cases attr <;> decide +kernel

theorem toList_join_cons (first : String) (rest : List String) :
    (Text.join "." (first :: rest)).toList =
      first.toList ++ rest.flatMap fun name => '.' :: name.toList := by
  induction rest generalizing first with
  | nil => simp [Text.join]
  | cons next rest ih =>
      rw [Text.join, String.toList_append, String.toList_append, ih, List.flatMap_cons,
        List.append_assoc]
      rfl

namespace Scope

/-- The way to a work or work part. -/
def reach (scope : Scope) (name : String) : List String :=
  match scope.access with
  | .throughWord => [scope.wordAlias, name]
  | .bound => [name]

/-- What the mark of an entity becomes. -/
def root (scope : Scope) : Entity -> List String
  | .word => [scope.wordAlias]
  | .wordPart => [partAlias scope.index]
  | .work => scope.reach "work"
  | .workPart => scope.reach "workPart"

def path (scope : Scope) (attr : Attribute) : List String :=
  scope.root attr.entity ++ attr.steps

theorem expandChars_of_not_mem (scope : Scope) {chars : List Char} (plain : '%' ∉ chars) :
    scope.expandChars chars = chars := by
  induction chars with
  | nil => rfl
  | cons c rest ih =>
      have other : c ≠ '%' := fun same => plain (same ▸ List.mem_cons_self)
      have later := ih fun member => plain (List.mem_cons_of_mem c member)
      simp [expandChars, other, later]

theorem reach_cases (scope : Scope) (name : String) :
    Exists fun first => Exists fun more => scope.reach name = first :: more ∧
      (Text.join "." (scope.reach name)).toList = scope.workPath ++ name.toList := by
  rw [reach, workPath]
  cases scope.access with
  | throughWord => exact ⟨_, _, rfl, by simp [Text.join]⟩
  | bound => exact ⟨_, _, rfl, rfl⟩

theorem root_cases (scope : Scope) (entity : Entity) :
    Exists fun first => Exists fun more => scope.root entity = first :: more ∧
      forall chars, scope.expandChars (entity.mark.toList ++ chars) =
        (Text.join "." (scope.root entity)).toList ++ scope.expandChars chars := by
  cases entity with
  | word => exact ⟨_, _, rfl, fun chars => by simp [Entity.mark, expandChars, root, Text.join]⟩
  | wordPart =>
      exact ⟨_, _, rfl, fun chars => by
        simp [Entity.mark, expandChars, root, Text.join, partAlias]⟩
  | work =>
      rcases scope.reach_cases "work" with ⟨first, more, reached, joined⟩
      exact ⟨first, more, reached, fun chars => by simp [Entity.mark, expandChars, root, joined]⟩
  | workPart =>
      rcases scope.reach_cases "workPart" with ⟨first, more, reached, joined⟩
      exact ⟨first, more, reached, fun chars => by simp [Entity.mark, expandChars, root, joined]⟩

theorem field_eq (scope : Scope) (attr : Attribute) :
    scope.field attr = Text.join "." (scope.path attr) := by
  rcases attr.template_eq with ⟨template, named⟩
  rcases scope.root_cases attr.entity with ⟨first, more, root, expanded⟩
  have plain : '%' ∉ attr.steps.flatMap fun name => '.' :: name.toList := by
    intro member
    rcases List.mem_flatMap.mp member with ⟨name, among, inside⟩
    rcases List.mem_cons.mp inside with dot | within
    · cases dot
    · rcases Store.isName_cases (List.all_eq_true.mp named name among) with ⟨_, _, _, _, each⟩
      have percent := each '%' within
      revert percent
      decide
  apply String.toList_injective
  rw [field, expand, String.toList_ofList, template, toList_join_cons, expanded,
    expandChars_of_not_mem scope plain, path, root, List.cons_append, toList_join_cons,
    toList_join_cons, List.flatMap_append, List.append_assoc]

end Scope

/-! ## Aliases -/

theorem isName_append_repr {letters : String} (named : Store.isName letters = true) (n : Nat) :
    Store.isName (letters ++ Nat.repr n) = true := by
  rcases Store.isName_cases named with ⟨c, rest, chars, start, each⟩
  rw [chars] at each
  rw [Store.isName, String.toList_append, chars, List.cons_append]
  refine Bool.and_eq_true_iff.mpr ⟨start, List.all_eq_true.mpr ?_⟩
  intro d member
  rcases List.mem_append.mp member with letter | digit
  · exact each d (List.mem_cons_of_mem c letter)
  · exact Store.isNameChar_of_isDigit (Store.isDigit_of_mem_repr digit)

theorem isName_wordAlias (index : Nat) : Store.isName (wordAlias index) = true :=
  isName_append_repr (by decide) index

theorem isName_partAlias (index : Nat) : Store.isName (partAlias index) = true :=
  isName_append_repr (by decide) index

theorem path_of_eq_join {text : String} {names : List String} (same : text = Text.join "." names)
    (nonempty : names ≠ []) (named : names.all Store.isName = true) :
    Store.isPath text = true ∧ Store.dotted text = names := by
  rw [same]
  have each := List.all_eq_true.mp named
  exact ⟨Store.isPath_join nonempty each, Store.dotted_join nonempty each⟩

namespace Scope

theorem reach_named {scope : Scope} (named : Store.isName scope.wordAlias = true) {name : String}
    (plain : Store.isName name = true) : (scope.reach name).all Store.isName = true := by
  rw [reach]
  cases scope.access <;> simp [named, plain]

theorem root_named {scope : Scope} (named : Store.isName scope.wordAlias = true) (entity : Entity) :
    (scope.root entity).all Store.isName = true := by
  cases entity with
  | word => simp [root, named]
  | wordPart => simp [root, isName_partAlias]
  | work => exact reach_named named (by decide)
  | workPart => exact reach_named named (by decide)

theorem dotted_field {scope : Scope} (named : Store.isName scope.wordAlias = true)
    (attr : Attribute) :
    Store.isPath (scope.field attr) = true ∧ Store.dotted (scope.field attr) = scope.path attr := by
  refine path_of_eq_join (scope.field_eq attr) ?_ ?_
  · rcases scope.root_cases attr.entity with ⟨first, more, root, _⟩
    rw [path, root]
    exact List.cons_ne_nil _ _
  · rw [path, List.all_append, root_named named, attr.template_eq.2]
    rfl

end Scope

/-! ## Bindings -/

/-- All names of a schema are plain identifiers. -/
structure Schema.IsPlain (schema : Schema) : Prop where
  word : Store.isName schema.word = true
  wordPart : Store.isName schema.wordPart = true
  work : Store.isName schema.work = true
  workPart : Store.isName schema.workPart = true
  successor : Store.isName schema.successor = true

theorem path_wordAlias (index : Nat) :
    Store.isPath (wordAlias index) = true ∧ Store.dotted (wordAlias index) = [wordAlias index] :=
  ⟨Store.isPath_of_isName (isName_wordAlias index), Store.dotted_of_isName (isName_wordAlias index)⟩

theorem path_partWord (index : Nat) :
    Store.isPath (partAlias index ++ ".word") = true ∧
      Store.dotted (partAlias index ++ ".word") = [partAlias index, "word"] := by
  have spelled : ".word" = "." ++ "word" := by decide
  refine path_of_eq_join ?_ (List.cons_ne_nil _ _) ?_
  · rw [spelled, <- String.append_assoc]
    rfl
  · rw [List.all_cons, isName_partAlias]
    decide

theorem join_replicate (first name : String) (count : Nat) :
    Text.join "." (first :: List.replicate count name) =
      first ++ Text.repeated ("." ++ name) count := by
  apply String.toList_injective
  rw [toList_join_cons, String.toList_append]
  congr 1
  induction count with
  | zero => rfl
  | succ count ih =>
      rw [List.replicate_succ, List.flatMap_cons, ih, Text.repeated, String.toList_append,
        String.toList_append]
      rfl

/-- The way from the first word to a later one. -/
theorem path_successor {schema : Schema} (plain : schema.IsPlain) (index : Nat) :
    Store.isPath ("w0" ++ Text.repeated ("." ++ schema.successor) index) = true ∧
      Store.dotted ("w0" ++ Text.repeated ("." ++ schema.successor) index) =
        "w0" :: List.replicate index schema.successor := by
  refine path_of_eq_join (join_replicate "w0" schema.successor index).symm (List.cons_ne_nil _ _) ?_
  have first : Store.isName "w0" = true := by decide
  rw [List.all_cons, first, Bool.true_and, List.all_eq_true]
  intro name member
  rw [(List.mem_replicate.mp member).2]
  exact plain.successor

end CorpusQuery
