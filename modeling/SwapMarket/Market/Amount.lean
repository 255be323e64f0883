import SwapMarket.Fault

/-!
# Amounts in JSON

An amount may come as a number, as a text, or as null, which counts as zero (**`Json.amount`**).
**`sumMember`** adds up one member over a list of values; a value without it counts as zero.
-/

namespace SwapMarket

/-- The decimal that a value stands for. -/
def Json.amount : Json → Result Decimal
  | .null => .ok .zero
  | .str s => (Decimal.read s).mapError .decimal
  | .num n => .ok n.decimal
  | v => .error (.notDecimal v)

/-- The member of a name in an object; of several the last one. -/
def Json.member? (k : String) : Json → Option Json
  | .obj fields => (fields.reverse.find? fun f => f.1 == k).map (·.2)
  | _ => none

/-- The sum of a member, onto what is already summed. -/
def sumMemberFrom (k : String) : Decimal → List Json → Result Decimal
  | total, [] => .ok total
  | total, row :: rows =>
    match row.member? k with
    | none => sumMemberFrom k total rows
    | some v =>
      match v.amount with
      | .ok d => sumMemberFrom k (total + d) rows
      | .error f => .error f

/-- The sum of a member over a list of values. -/
def sumMember (k : String) (rows : List Json) : Result Decimal :=
  sumMemberFrom k .zero rows

end SwapMarket
