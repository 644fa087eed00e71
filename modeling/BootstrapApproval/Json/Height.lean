import BootstrapApproval.Json.Basic

/-! # The height of values

The height of a value is the number of values on the longest way from it to the innermost one, both
counted.
-/

namespace BootstrapApproval.Json

mutual
def height : Json → Nat
  | .arr items => heightItems items + 1
  | .obj ms => heightMembers ms + 1
  | _ => 1

def heightItems : List Json → Nat
  | [] => 0
  | x :: xs => max (height x) (heightItems xs)

def heightMembers : List (String × Json) → Nat
  | [] => 0
  | (_, x) :: ms => max (height x) (heightMembers ms)
end

end BootstrapApproval.Json
