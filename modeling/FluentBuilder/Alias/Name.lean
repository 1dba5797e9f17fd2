import FluentBuilder.Failure
import FluentBuilder.Unicode.Word

namespace FluentBuilder.Alias

open Unicode

def declaredName? (t : Text) : Option Text :=
  match "export type".toList.isPrefixOf? t with
  | some (c :: rest) =>
    let name := rest.takeWhile isWord
    if isSpace c && !name.isEmpty then some name else none
  | _ => none

/-- The name in the first declaration of the text. A declaration cannot start inside a word, so the
search is told whether the text continues one. -/
def firstName? (insideWord : Bool) : Text → Option Text
  | [] => none
  | c :: rest =>
    match if insideWord then none else declaredName? (c :: rest) with
    | some name => some name
    | none => firstName? (isWord c) rest

def name (document : Text) : Except Failure Text :=
  match firstName? false document with
  | some name => .ok name
  | none => .error .aliasNameNotFound

end FluentBuilder.Alias
