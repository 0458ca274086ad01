import WastePickup.Api.Endpoint

/-!
# What a report of issues repeats

An issue found in a body is reported together with the value it was found at, or, where something is
missing, with the object that lacks it. The repeated values are left out of the responses here; what
matters is that a response has to be written. A number that is not finite cannot be written in JSON,
nor half of a pair of code units in UTF-8, and a report that would repeat one breaks down.
-/

namespace WastePickup

namespace Json

mutual

/-- Whether a value holds a number that is not finite. -/
def hasInfinite : Json → Bool
  | float x => !x.isFinite
  | arr items => itemsInfinite items
  | obj members => membersInfinite members
  | _ => false

/-- Whether one of some values holds a number that is not finite. -/
def itemsInfinite : List Json → Bool
  | [] => false
  | item :: rest => hasInfinite item || itemsInfinite rest

/-- Whether one of some members holds a number that is not finite. -/
def membersInfinite : List (Text × Json) → Bool
  | [] => false
  | (_, value) :: rest => hasInfinite value || membersInfinite rest

end

/-- Whether a text is not a string. -/
def Text.isBroken : Text → Bool
  | proper _ => false
  | broken _ => true

mutual

/-- Whether a value holds a text that is not a string. -/
def hasBroken : Json → Bool
  | str t => t.isBroken
  | arr items => itemsBroken items
  | obj members => membersBroken members
  | _ => false

/-- Whether one of some values holds a text that is not a string. -/
def itemsBroken : List Json → Bool
  | [] => false
  | item :: rest => hasBroken item || itemsBroken rest

/-- Whether one of some members has a name or holds a text that is not a string. -/
def membersBroken : List (Text × Json) → Bool
  | [] => false
  | (name, value) :: rest => name.isBroken || hasBroken value || membersBroken rest

end

/-- The value at a place inside another. -/
def at? : Json → List Place → Option Json
  | j, [] => some j
  | obj members, .field name :: rest => (Object.get? members name).bind fun j => at? j rest
  | arr items, .index n :: rest => items[n]?.bind fun j => at? j rest
  | _, _ => none

end Json

/-- The value that an issue is reported with, if it was found in the body. -/
def Issue.repeated? (issue : Issue) (body : Body) : Option Json :=
  match body, issue.place with
  | .value j, .field part :: inside =>
    if part ≠ "body" then none
    else if issue.fault = .missing then j.at? inside.dropLast
    else j.at? inside
  | _, _ => none

/-- Why a report of issues cannot be written, if it cannot. -/
def Issue.breakdown? (body : Body) (issues : List Issue) : Option Breakdown :=
  let repeated := issues.filterMap fun issue => issue.repeated? body
  if repeated.any Json.hasInfinite then some .numberNotFinite
  else if repeated.any Json.hasBroken then some .textNotEncodable
  else none

end WastePickup
