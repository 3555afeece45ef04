/-
Planning an update: the calls that take a resource from one tag set to another.

A service with one operation for both directions gets one call that removes and
adds; any other service first gets the calls that remove, then the calls that
add, in batches of its batch size. Batches are cut from the whole difference;
reserved keys are left out of each call afterwards, so a call may carry nothing.

`PlannedCall.apply` is the effect of a call on the tags of a resource.
-/
import Retag.TagSet.Json
import Retag.Service.Basic

namespace Retag

/-- A request that a plan sends. -/
inductive PlannedCall where
  /-- Removes keys and sets tags. -/
  | combined (operation : String) (tags : TagSet) (untagKeys : List String)
  /-- Removes tags. -/
  | untag (operation : String) (tags : TagSet)
  /-- Sets tags. -/
  | tag (operation : String) (tags : TagSet)
  deriving DecidableEq

namespace PlannedCall

def operation : PlannedCall → String
  | combined op .. | untag op _ | tag op _ => op

/-- The tags sent with a call. -/
def tags : PlannedCall → TagSet
  | combined _ tags _ | untag _ tags | tag _ tags => tags

def toJson : PlannedCall → Json
  | combined op tags keys =>
    .object [("call", .string "combined"), ("operation", .string op), ("tags", tags.toJson),
      ("untag_keys", .array (keys.map .string))]
  | untag op tags =>
    .object [("call", .string "untag"), ("operation", .string op), ("tags", tags.toJson)]
  | tag op tags =>
    .object [("call", .string "tag"), ("operation", .string op), ("tags", tags.toJson)]

end PlannedCall

/-- The batches of a set; a set of any size is one batch if there is no batch
size. -/
def TagSet.batches (s : TagSet) : Option Nat → Except InvalidChunkSize (List TagSet)
  | some size => s.chunks size
  | none => .ok [s]

/-- The calls of one direction: one for each batch, and none if there is nothing
to send. -/
def callsFor (tags : TagSet) (batchSize : Option Nat) (call : TagSet → PlannedCall) :
    Except InvalidChunkSize (List PlannedCall) :=
  if tags.isEmpty then .ok []
  else (tags.batches batchSize).map fun batches => batches.map fun b => call b.withoutReserved

/-- The calls that take a resource from `old` to `new`. -/
def plan (service : Service) (old new : TagSet) : Except InvalidChunkSize (List PlannedCall) :=
  let removed := old.removed new
  let updated := old.updated new
  if service.usesSingleEndpoint then
    if removed.isEmpty && updated.isEmpty then .ok []
    else
      .ok [.combined service.tagOperation updated.withoutReserved removed.withoutReserved.keys]
  else do
    let untags ← callsFor removed service.batchSize (.untag service.untagOperation)
    let tags ← callsFor updated service.batchSize (.tag service.tagOperation)
    .ok (untags ++ tags)

/-! ## Effects -/

/-- The tags of a resource, as seen by looking up keys. -/
abbrev Resource := String → Option String

/-- The tags of a resource that has just the tags of a set. -/
def TagSet.resource (s : TagSet) : Resource := s.get?

namespace Resource

/-- Without the given keys. -/
def delete (r : Resource) (keys : List String) : Resource :=
  fun k => if k ∈ keys then none else r k

/-- With the tags of a set. -/
def set (r : Resource) (tags : TagSet) : Resource :=
  fun k => (tags.get? k).or (r k)

end Resource

/-- What a call does to the tags of a resource. -/
def PlannedCall.apply (r : Resource) : PlannedCall → Resource
  | .combined _ tags untagKeys => (r.delete untagKeys).set tags
  | .untag _ tags => r.delete tags.keys
  | .tag _ tags => r.set tags

end Retag
