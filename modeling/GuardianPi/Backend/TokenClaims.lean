import GuardianPi.Backend.AccessControl

namespace GuardianPi.Backend
open GuardianPi.Library GuardianPi.Library.Python

def instant : Value → Option Rat
  | .num (.int n) => some n
  | .num (.float (.finite q)) => some q
  | .bool b => some (if b then 1 else 0)
  | _ => none

section
variable {Token : Type} (sec : Security Token)

variable {sec} {payload : Claims}

variable {subject role : String} {extraClaims : Claims} {now : Int} {jti : String}

end

end GuardianPi.Backend
