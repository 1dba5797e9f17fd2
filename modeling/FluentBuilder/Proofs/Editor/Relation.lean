import FluentBuilder.Editor

namespace FluentBuilder.Editor

variable {m m' : Type → Type} [Monad m] [Monad m']

/-- A relation that holds between computations with the same plain result, and is kept when related
computations are carried on alike. -/
structure Composes (R : (α : Type) → m α → m' α → Prop) : Prop where
  pure : ∀ {α : Type} (a : α), R α (pure a) (pure a)
  bind : ∀ {α β : Type} {x : m α} {y : m' α} {f : α → m β} {g : α → m' β},
    R α x y → (∀ a, R β (f a) (g a)) → R β (x >>= f) (y >>= g)

variable {R : (α : Type) → m α → m' α → Prop} (editor : Editor m) (editor' : Editor m')

theorem Composes.openText (hR : Composes R) (htext : R _ editor.documentText editor'.documentText)
    (workspace : Option Text) : R _ (editor.openText workspace) (editor'.openText workspace) := by
  cases workspace with
  | none => exact hR.pure _
  | some root =>
    apply hR.bind htext
    intro text
    cases text with
    | none => exact hR.pure _
    | some text => exact hR.pure _

theorem Composes.saveBuilder (hR : Composes R) (htext : R _ editor.documentText editor'.documentText)
    (hpath : R _ editor.documentPath editor'.documentPath)
    (hsave : ∀ path text, R _ (editor.save path text) (editor'.save path text))
    (workspace : Option Text) (s : Settings) :
    R _ (editor.saveBuilder workspace s) (editor'.saveBuilder workspace s) := by
  apply hR.bind (hR.openText editor editor' htext workspace)
  intro opened
  cases opened with
  | error failure => exact hR.pure _
  | ok text =>
    apply hR.bind hpath
    intro path
    cases path with
    | none => exact hR.pure _
    | some path =>
      cases Builder.ofDocument s.generator text with
      | error failure => exact hR.pure _
      | ok b =>
        apply hR.bind (hsave _ _)
        intro saved
        cases saved with
        | error detail => exact hR.pure _
        | ok _ => exact hR.pure _

theorem Composes.createBuilder (hR : Composes R)
    (htext : R _ editor.documentText editor'.documentText)
    (hpath : R _ editor.documentPath editor'.documentPath)
    (hsave : ∀ path text, R _ (editor.save path text) (editor'.save path text))
    (herror : ∀ message, R _ (editor.showError message) (editor'.showError message))
    (hinfo : ∀ message, R _ (editor.showInfo message) (editor'.showInfo message))
    (workspace : Option Text) (s : Settings) :
    R _ (editor.createBuilder workspace s) (editor'.createBuilder workspace s) := by
  apply hR.bind (hR.saveBuilder editor editor' htext hpath hsave workspace s)
  intro r
  cases r with
  | error failure => exact hR.bind (herror _) fun _ => hR.pure _
  | ok path => exact hR.bind (hinfo _) fun _ => hR.pure _

end FluentBuilder.Editor
