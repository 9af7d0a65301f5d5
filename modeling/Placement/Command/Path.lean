import Placement.Text.Basic

/-!
# Placement.Command.Path — paths of files

A path is shown in its shortest form: without empty steps and without steps that
stay in a directory. Two slashes at its head are another root than one slash. A
path whose last step has no name of its own leads to a directory.
-/

namespace Placement.Command

/-- The root of a path that has one. -/
def pathRoot : Text → Text
  | '/' :: '/' :: '/' :: _ => [.char '/']
  | '/' :: '/' :: _ => [.char '/', .char '/']
  | '/' :: _ => [.char '/']
  | _ => []

/-- The steps of a path that lead somewhere. -/
def pathSteps (path : Text) : List Text :=
  (Text.splitOn '/' path).filter fun step => !step.isEmpty && step != [.char '.']

/-- A path in its shortest form. -/
def tidyPath (path : Text) : Text :=
  match pathRoot path ++ [.char '/'].intercalate (pathSteps path) with
  | [] => [.char '.']
  | tidied => tidied

/-- Whether a path leads to a directory, by its last step. -/
def namesDirectory (path : Text) : Bool :=
  (pathSteps path).getLast?.all (· == [.char '.', .char '.'])

end Placement.Command
