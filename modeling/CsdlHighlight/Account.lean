import CsdlHighlight.Bytes

/-!
Contract: what the system tells about a process and the account it runs for.

Owns:
- the fields in the status of a process;
- the home directory in the list of accounts.

Does not own: where the system keeps the two.
-/

namespace CsdlHighlight.Account

def newline : UInt8 := 0x0A

def tab : UInt8 := 0x09

def colon : UInt8 := 0x3A

/-- The first value in the line of the status that begins with a label. -/
def field? (label status : Bytes) : Option Bytes :=
  (Bytes.cutAt newline status).findSome? fun line =>
    match Bytes.cutAt tab line with
    | name :: value :: _ => if name = label ++ [colon] then some value else none
    | _ => none

def user? (status : Bytes) : Option Bytes :=
  field? [0x55, 0x69, 0x64] status

def process? (status : Bytes) : Option Bytes :=
  field? [0x50, 0x69, 0x64] status

/-- The home directory of a user in the list of accounts: the sixth field of
the line with the user in the third one. -/
def homeIn? (accounts user : Bytes) : Option Bytes :=
  (Bytes.cutAt newline accounts).findSome? fun line =>
    match Bytes.cutAt colon line with
    | _ :: _ :: number :: _ :: _ :: home :: _ =>
        if number = user then some home else none
    | _ => none

def home? (status accounts : Bytes) : Option Bytes :=
  (user? status).bind (homeIn? accounts)

end CsdlHighlight.Account
