import SieCluster.Config.AdapterOptions

/-!
# Model configs and profile inheritance

The model config both registries read, and the walk from a profile to the root
of its `extends` chain.  The gateway follows any `extends` it finds; the control
plane takes an empty one for none.
-/

namespace SieCluster.Profiles

open List hiding map
open Std.ExtTreeMap hiding map map_map
open Tables
open AdapterOptions
open Streaming (Json)

/-- A `max_batch_tokens` as a config carries it: an integer, or another value with the
integer a typed field reads it as. -/
inductive BatchTokens where
  | integer (tokens : ℤ)
  | other (text : String) (reading : Option ℤ)
  deriving DecidableEq

structure ProfileConfig where
  kvBudgetTokens : Option ℕ
  adapterPath : Option String
  maxBatchTokens : Option BatchTokens
  computePrecision : Option String
  maxOutputTokens : Option ℕ
  grammarProfile : Option String
  chatTemplateKwargs : Option Json
  adapterOptions : Option Options
  extendsProfile : Option String
  deriving DecidableEq

def emptyProfileConfig : ProfileConfig :=
  ⟨none, none, none, none, none, none, none, none, none⟩

structure ModelConfig where
  name : String
  hfRevision : Option String
  pool : Option String
  profiles : Table ProfileConfig
  inputs : Option (Table Bool)
  maxSequenceLength : Option ℕ
  tasks : Option Json
  deriving DecidableEq

structure BundleInfo where
  name : String
  priority : ℤ
  adapters : List String
  engine : String
  deriving DecidableEq

/-- The profiles met on the way up, the starting one first, and whether the way ended
at a profile without a parent. -/
structure Lineage where
  profiles : List ProfileConfig
  complete : Bool

def climb (parentOf : ProfileConfig → Option String) (profiles : Table ProfileConfig) :
    ℕ → List String → String → Lineage
  | 0, _, _ => ⟨[], false⟩
  | fuel + 1, seen, name =>
    -- a name met before is a cycle, one that is not there a missing parent
    if name ∈ seen then ⟨[], false⟩
    else match profiles[name]? with
      | none => ⟨[], false⟩
      | some profile =>
        match parentOf profile with
        | none => ⟨[profile], true⟩
        | some parent =>
          let above := climb parentOf profiles fuel (name :: seen) parent
          ⟨profile :: above.profiles, above.complete⟩

def lineage (parentOf : ProfileConfig → Option String) (profiles : Table ProfileConfig)
    (name : String) : Lineage :=
  climb parentOf profiles (profiles.size + 1) [] name

def gatewayParent (profile : ProfileConfig) : Option String :=
  profile.extendsProfile

def controlParent (profile : ProfileConfig) : Option String :=
  profile.extendsProfile.filter (· ≠ "")

/-- The text before the first colon of a `module:Class` path. -/
def moduleOf (path : String) : String :=
  String.ofList (path.toList.takeWhile (· ≠ ':'))

/-- The first adapter path on the way up that is not empty. -/
def effectiveAdapterPath (line : Lineage) : Option String :=
  line.profiles.findSome? fun profile => profile.adapterPath.filter (· ≠ "")

section Pools

variable (text : List Char)

def trimmed : List Char :=
  (text.dropWhile Char.isWhitespace).rdropWhile Char.isWhitespace

theorem not_isWhitespace_of_isAlpha {letter : Char} (halpha : letter.isAlpha = true) :
    letter.isWhitespace = false := by
  cases hspace : letter.isWhitespace with
  | false => rfl
  | true =>
    simp only [Char.isWhitespace, Bool.or_eq_true, decide_eq_true_eq] at hspace
    rcases hspace with ((rfl | rfl) | rfl) | rfl <;> cases halpha

theorem isWhitespace_toLower (letter : Char) :
    letter.toLower.isWhitespace = letter.isWhitespace := by
  by_cases hupper : letter.isUpper = true
  · have halpha : letter.isAlpha = true := by
      unfold Char.isAlpha
      rw [hupper]
      rfl
    rw [not_isWhitespace_of_isAlpha halpha,
      not_isWhitespace_of_isAlpha ((Char.isAlpha_toLower_eq_isAlpha letter).trans halpha)]
  · rw [Char.toLower_eq_of_not_isUpper hupper]

theorem trimmed_map_toLower :
    trimmed (text.map Char.toLower) = (trimmed text).map Char.toLower := by
  have hspace : Char.isWhitespace ∘ Char.toLower = Char.isWhitespace :=
    funext isWhitespace_toLower
  unfold trimmed List.rdropWhile
  rw [dropWhile_map, hspace, ← map_reverse, dropWhile_map, hspace, ← map_reverse]

theorem trimmed_trimmed : trimmed (trimmed text) = trimmed text := by
  have hstart : (trimmed text).dropWhile Char.isWhitespace = trimmed text := by
    have hfront : trimmed text <+: text.dropWhile Char.isWhitespace :=
      rdropWhile_prefix _ _
    obtain ⟨rest, hrest⟩ := hfront
    have hhead := List.head?_dropWhile_not Char.isWhitespace text
    cases htext : trimmed text with
    | nil => rfl
    | cons =>
      rw [← hrest, htext] at hhead
      exact dropWhile_cons_of_neg (by simpa using hhead)
  unfold trimmed at hstart ⊢
  rw [hstart, rdropWhile_idempotent]

/-- What both programs take from the Unicode tables: the lower case of a text, and the text
without the blanks at its ends. -/
class Letters where
  lowercase : String → String
  strip : String → String
  lowercase_lowercase (text : String) : lowercase (lowercase text) = lowercase text
  strip_strip (text : String) : strip (strip text) = strip text
  strip_lowercase (text : String) : strip (lowercase text) = lowercase (strip text)
  lowercase_default : lowercase "default" = "default"
  strip_default : strip "default" = "default"

export Letters (lowercase strip)

/-- The tables restricted to ASCII. -/
@[reducible]
def ascii : Letters where
  lowercase text := String.ofList (text.toList.map Char.toLower)
  strip text := String.ofList (trimmed text.toList)
  lowercase_lowercase text := by
    have hlower : (Char.toLower ∘ Char.toLower) = Char.toLower :=
      funext Char.toLower_toLower_eq_toLower
    rw [String.toList_ofList, map_map, hlower]
  strip_strip text := by rw [String.toList_ofList, trimmed_trimmed]
  strip_lowercase text := by
    rw [String.toList_ofList, String.toList_ofList, trimmed_map_toLower]
  lowercase_default := by decide
  strip_default := by decide

/-- A pool's name as it is compared. -/
def canonicalPool [Letters] (pool : String) : String :=
  lowercase (strip pool)

theorem canonicalPool_canonicalPool [Letters] (pool : String) :
    canonicalPool (canonicalPool pool) = canonicalPool pool := by
  unfold canonicalPool
  rw [Letters.strip_lowercase, Letters.strip_strip, Letters.lowercase_lowercase]

theorem canonicalPool_default [Letters] : canonicalPool "default" = "default" := by
  rw [canonicalPool, Letters.strip_default, Letters.lowercase_default]

end Pools

section Climb

theorem lineage_root (hprofile : profiles[name]? = some profile)
    (hroot : parentOf profile = none) : lineage parentOf profiles name = ⟨[profile], true⟩ := by
  unfold lineage climb
  simp [hprofile, hroot]

theorem lineage_missing (hmissing : name ∉ profiles) :
    lineage parentOf profiles name = ⟨[], false⟩ := by
  unfold lineage climb
  simp [Std.ExtTreeMap.getElem?_eq_none hmissing]

end Climb

end SieCluster.Profiles
