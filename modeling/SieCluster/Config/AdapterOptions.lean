import SieCluster.Core.Tables
import SieCluster.Gateway.Streaming

/-!
# Adapter options

A profile's `adapter_options` are inherited key by key, and before they are
hashed they lose their empty sections and collapse to nothing when every value
left is falsy.  The gateway merges a whole inheritance chain and collapses once;
the control plane collapses after every profile.
-/

namespace SieCluster.AdapterOptions

open List hiding filter_filter
open Option hiding filter
open Tables
open Streaming (Json)

mutual

def decEqJson : (left right : Json) → Decidable (left = right)
  | .null, .null => isTrue rfl
  | .bool left, .bool right => decidable_of_iff (left = right) (by simp)
  | .number left, .number right => decidable_of_iff (left = right) (by simp)
  | .string left, .string right => decidable_of_iff (left = right) (by simp)
  | .array left, .array right =>
    match decEqItems left right with
    | isTrue heq => isTrue (by rw [heq])
    | isFalse hne => isFalse (by simp [hne])
  | .object left, .object right =>
    match decEqFields left right with
    | isTrue heq => isTrue (by rw [heq])
    | isFalse hne => isFalse (by simp [hne])
  | .null, .bool _ | .null, .number _ | .null, .string _ | .null, .array _ | .null, .object _
  | .bool _, .null | .bool _, .number _ | .bool _, .string _ | .bool _, .array _
  | .bool _, .object _ | .number _, .null | .number _, .bool _ | .number _, .string _
  | .number _, .array _ | .number _, .object _ | .string _, .null | .string _, .bool _
  | .string _, .number _ | .string _, .array _ | .string _, .object _ | .array _, .null
  | .array _, .bool _ | .array _, .number _ | .array _, .string _ | .array _, .object _
  | .object _, .null | .object _, .bool _ | .object _, .number _ | .object _, .string _
  | .object _, .array _ => isFalse (by simp)

def decEqItems : (left right : List Json) → Decidable (left = right)
  | [], [] => isTrue rfl
  | [], _ :: _ => isFalse (by simp)
  | _ :: _, [] => isFalse (by simp)
  | first :: left, second :: right =>
    match decEqJson first second, decEqItems left right with
    | isTrue hhead, isTrue htail => isTrue (by rw [hhead, htail])
    | isFalse hne, _ => isFalse (by simp [hne])
    | _, isFalse hne => isFalse (by simp [hne])

def decEqFields : (left right : List (String × Json)) → Decidable (left = right)
  | [], [] => isTrue rfl
  | [], _ :: _ => isFalse (by simp)
  | _ :: _, [] => isFalse (by simp)
  | (key, first) :: left, (other, second) :: right =>
    match decEq key other, decEqJson first second, decEqFields left right with
    | isTrue hkey, isTrue hhead, isTrue htail => isTrue (by rw [hkey, hhead, htail])
    | isFalse hne, _, _ => isFalse (by simp [hne])
    | _, isFalse hne, _ => isFalse (by simp [hne])
    | _, _, isFalse hne => isFalse (by simp [hne])

end

instance : DecidableEq Json := decEqJson

def isObject : Json → Bool
  | .object _ => true
  | _ => false

def isEmptyMap : Json → Bool
  | .object [] => true
  | _ => false

/-- The values Python's `not` and the gateway's collapse rule both treat as empty. -/
def isFalsy : Json → Bool
  | .null => true
  | .bool value => !value
  | .number value => value = 0
  | .string text => text = ""
  | .array items => items.isEmpty
  | .object fields => fields.isEmpty

/-- Options are a map of sections, or some other value that is passed on as it is. -/
inductive Options where
  | object (fields : Table Json)
  | plain (value : { value : Json // isObject value = false })
  deriving DecidableEq

def canonicalizeAdapterOptions : Options → Option Options
  | .object fields =>
    let compact : Table Json := fields.filter fun _ value => !isEmptyMap value
    if compact.toList.all fun entry => isFalsy entry.2 then none else some (.object compact)
  | .plain value => some (.plain value)

/-- An empty `loadtime` or `runtime` section does not replace an inherited one. -/
def replaces (key : String) (value : Json) : Bool :=
  !((key = "loadtime" || key = "runtime") && isEmptyMap value)

def fieldsOf : Option Options → Table Json
  | some (.object fields) => fields
  | _ => ∅

variable (parent : Option Options)

/-- The gateway's `merge_adapter_options`. -/
def mergeAdapterOptions : Option Options → Option Options
  | none => parent
  | some (.plain value) => some (.plain value)
  | some (.object child) => some (.object (fieldsOf parent ∪ child.filter replaces))

/-- The control plane's `_merge_hash_adapter_options`. -/
def mergeHashAdapterOptions : Option Options → Option Options
  | none => parent.bind canonicalizeAdapterOptions
  | some (.plain value) => canonicalizeAdapterOptions (.plain value)
  | some (.object child) =>
    canonicalizeAdapterOptions (.object (fieldsOf parent ∪ child.filter replaces))

end SieCluster.AdapterOptions
