import MakePlan.Configuration.Flag
import MakePlan.Failure

/-!
# Reading build options

Build options are read from left to right. The token after a flag that takes a value is that value,
whatever it looks like.
-/

namespace MakePlan.Configuration

set_option autoImplicit false

def assignments : List String → Except Failure (List Assignment)
  | [] => .ok []
  | token :: rest =>
      match Flag.find? token with
      | none => .error (.unknownOption token)
      | some flag =>
          match flag.effect with
          | .choose choice => (assignments rest).map (.choose choice :: ·)
          | .write slot _ =>
              match rest with
              | [] => .error (.missingValue token)
              | value :: rest => (assignments rest).map (.write slot value :: ·)

def ofTokens (tokens : List String) : Except Failure Configuration :=
  (assignments tokens).map ofAssignments

end MakePlan.Configuration
