import GuardianPi.Library.Json

namespace GuardianPi.Backend
open GuardianPi.Library

variable {ν Datetime : Type}

structure TelemetryPayload (ν Datetime : Type) where
  deviceId : String
  timestamp : Datetime
  encryptedData : Option String
  data : Option (List (String × Json ν))
  nonce : Option String
  tag : Option String

def requiredStr : Option (Json ν) → Option String
  | some (.str s) => some s
  | _ => none

def optionalStr : Option (Json ν) → Option (Option String)
  | none | some .null => some none
  | some (.str s) => some (some s)
  | _ => none

def optionalDict : Option (Json ν) → Option (Option (List (String × Json ν)))
  | none | some .null => some none
  | some (.obj fields) => some (some fields)
  | _ => none

/-- The request body as the schema reads it; `datetime` is the schema library's own reading of a
date-time. -/
def TelemetryPayload.validate (datetime : Json ν → Option Datetime) :
    Json ν → Option (TelemetryPayload ν Datetime)
  | .obj fields => do
      let deviceId ← requiredStr (Json.lookup "device_id" fields)
      let timestamp ← (Json.lookup "timestamp" fields).bind datetime
      let encryptedData ← optionalStr (Json.lookup "encrypted_data" fields)
      let data ← optionalDict (Json.lookup "data" fields)
      let nonce ← optionalStr (Json.lookup "nonce" fields)
      let tag ← optionalStr (Json.lookup "tag" fields)
      some ⟨deviceId, timestamp, encryptedData, data, nonce, tag⟩
  | _ => none

end GuardianPi.Backend
