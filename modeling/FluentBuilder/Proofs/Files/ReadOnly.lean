import FluentBuilder.Files.System
import FluentBuilder.Settings.Search

namespace FluentBuilder.TreeM

variable {α β : Type} {place : Location} {tree tree' : FileTree}

theorem run_bind {act : TreeM α} {a : α} (next : α → TreeM β)
    (h : act place tree = (a, tree')) : (act >>= next) place tree = next a place tree' := by
  change next (act place tree).1 place (act place tree).2 = _
  rw [h]

def ReadOnly (act : TreeM α) : Prop :=
  ∀ place tree, (act place tree).2 = tree

theorem readOnly_pure (a : α) : ReadOnly (pure a) :=
  fun _ _ => rfl

theorem ReadOnly.bind {act : TreeM α} {next : α → TreeM β} (h : ReadOnly act)
    (hnext : ∀ a, ReadOnly (next a)) : ReadOnly (act >>= next) := by
  intro place tree
  change (next (act place tree).1 place (act place tree).2).2 = tree
  rw [hnext, h]

/-- A computation that only reads, as a value and the tree it was read from. -/
theorem ReadOnly.run_eq {act : TreeM α} (h : ReadOnly act) (place : Location) (tree : FileTree) :
    act place tree = ((act place tree).1, tree) := by
  apply Prod.ext
  · rfl
  · exact h place tree

theorem readOnly_kind? (path : Text) : ReadOnly (FileSystem.kind? path) :=
  fun _ _ => rfl

theorem readOnly_readText (path : Text) : ReadOnly (FileSystem.readText path) :=
  fun _ _ => rfl

theorem writeText_error {path text : Text} {e : FileError}
    (h : tree.write place path text = .error e) :
    (FileSystem.writeText path text : TreeM _) place tree = (.error e.message, tree) := by
  simp only [FileSystem.writeText, h]

theorem writeText_ok {path text : Text} (h : tree.write place path text = .ok tree') :
    (FileSystem.writeText path text : TreeM _) place tree = (.ok (), tree') := by
  simp only [FileSystem.writeText, h]

theorem readOnly_firstFile? (paths : List Text) : ReadOnly (Settings.firstFile? paths) := by
  induction paths with
  | nil => exact readOnly_pure none
  | cons path paths ih =>
    apply (readOnly_kind? path).bind
    intro kind
    by_cases hkind : kind = some .file
    · rw [if_pos hkind]
      exact readOnly_pure (some path)
    · rw [if_neg hkind]
      exact ih

theorem readOnly_readFile (env : Environment) (path : Text) :
    ReadOnly (Settings.readFile env path) := by
  apply (readOnly_readText path).bind
  intro document
  cases document with
  | error detail => exact readOnly_pure _
  | ok document => exact readOnly_pure _

theorem readOnly_loadLogged (env : Environment) (explicit : Option Text) (directory : Text) :
    ReadOnly (Settings.loadLogged env explicit directory) := by
  cases explicit with
  | some path =>
    apply (readOnly_kind? path).bind
    intro kind
    by_cases hkind : kind = some .file
    · rw [if_pos hkind]
      exact readOnly_readFile env path
    · rw [if_neg hkind]
      exact readOnly_pure _
  | none =>
    apply (readOnly_firstFile? _).bind
    intro found
    cases found with
    | some path => exact readOnly_readFile env path
    | none => exact readOnly_pure _

theorem readOnly_load (env : Environment) (explicit : Option Text) (directory : Text) :
    ReadOnly (Settings.load env explicit directory) :=
  (readOnly_loadLogged env explicit directory).bind fun _ => readOnly_pure _

end FluentBuilder.TreeM
