import SieCluster.Config.DerivedTables

/-!
# The registry's indexes

As long as no two registered models have ids or variants that are equal up to
letter case, every index of the registry is determined by the full configs: a
profile name has no colon, so a variant's name tells its model.  A write keeps
this when the model it names has no other model's id or variant in other letters.
-/

namespace SieCluster.RegistryIndexes

open List hiding all map
open Option hiding all all_eq_true map mem_map
open Std.ExtTreeMap
open Tables
open Profiles
open ConfigRegistry
open ModelCatalogue (loadable)
open RegistryTables
open DerivedTables
open ModelRegistry (variantName)
open RegistryRoutes (variantName_inj)

/-! ## Variants in lower case -/

variable {live : LiveRegistry}

theorem colon_of_loadable (hloadable : loadable config = true)
    (hprofile : profile ∈ variantProfiles config.profiles) : ':' ∉ profile.toList := by
  obtain ⟨hmem, hne⟩ := mem_variantProfiles.1 hprofile
  simp only [loadable, Bool.and_eq_true, all_eq_true, Bool.or_eq_true,
    decide_eq_true_eq] at hloadable
  obtain hdefault | hformed := hloadable.2 profile (mem_keys.2 hmem)
  · exact absurd hdefault hne
  · exact (not_colon_of_wellFormed hformed).1

variable [Letters]

/-- The variant a lower-case name stands for among the listed profiles: the last one. -/
def lastVariant (id : String) (profiles : List String) (key : String) : Option String :=
  ((profiles.map (variantName id)).filter fun name => lowercase name = key).getLast?

theorem lastVariant_eq_some {id key variant : String} {profiles : List String}
    (hlast : lastVariant id profiles key = some variant) :
    ∃ profile ∈ profiles, variant = variantName id profile ∧ lowercase variant = key := by
  obtain ⟨hmem, hkey⟩ := mem_filter.1 (mem_of_getLast? hlast)
  obtain ⟨profile, hprofile, rfl⟩ := mem_map.1 hmem
  exact ⟨profile, hprofile, rfl, of_decide_eq_true hkey⟩

theorem lastVariant_isSome {id : String} {profiles : List String} (hprofile : profile ∈ profiles) :
    ∃ variant, lastVariant id profiles (lowercase (variantName id profile)) = some variant := by
  have hmem : variantName id profile ∈ (profiles.map (variantName id)).filter
      fun name => lowercase name = lowercase (variantName id profile) :=
    mem_filter.2 ⟨mem_map_of_mem hprofile, by simp⟩
  exact ⟨_, List.getLast?_eq_some_getLast (ne_nil_of_mem hmem)⟩

theorem get_registerVariant_lower (id : String) (profiles : List String)
    (tables : Table String × Table String) (key : String) :
    ((profiles.foldl (registerVariant id) tables).2)[key]? =
      (lastVariant id profiles key).or tables.2[key]? := by
  induction profiles using List.reverseRecOn with
  | nil => rfl
  | append_singleton _ profile ih =>
    rw [foldl_append, foldl_cons, foldl_nil]
    simp only [registerVariant, get_insert, ih, lastVariant, map_append, map_cons,
      map_nil, filter_append]
    by_cases hkey : lowercase (variantName id profile) = key
    · simp [hkey]
    · simp [hkey]

/-! ## The indexes of a registry -/

/-- The ids of two models, or variants of them, are equal up to letter case.  Equal ids do
not follow from equal variants: a letter's lower case may depend on the next one. -/
def Alike (config other : ModelConfig) : Prop :=
  lowercase config.name = lowercase other.name ∨
    ∃ profile ∈ variantProfiles config.profiles, ∃ name ∈ variantProfiles other.profiles,
      lowercase (variantName config.name profile) = lowercase (variantName other.name name)

instance (config other : ModelConfig) : Decidable (Alike config other) :=
  inferInstanceAs (Decidable (_ ∨ ∃ profile ∈ variantProfiles config.profiles, _))

theorem Alike.symm (halike : Alike config other) : Alike other config := by
  obtain hsame | ⟨profile, hprofile, name, hname, hsame⟩ := halike
  · exact .inl hsame.symm
  · exact .inr ⟨name, hname, profile, hprofile, hsame.symm⟩

structure Indexed (live : LiveRegistry) : Prop where
  derived : Derived live
  named : ∀ (id : String) (config : ModelConfig), live.models[id]? = some config →
    config.name = id ∧ loadable config = true
  distinct : ∀ (id other : String) (config stored : ModelConfig),
    live.models[id]? = some config → live.models[other]? = some stored →
      Alike config stored → id = other
  lower : ∀ key id : String, live.modelNamesLower[key]? = some id ↔
    id ∈ live.models ∧ lowercase id = key
  bases : ∀ (id : String) (config : ModelConfig), live.models[id]? = some config →
    ∀ profile ∈ variantProfiles config.profiles,
      live.profileVariantBaseModels[variantName id profile]? = some id
  variants : ∀ (id : String) (config : ModelConfig), live.models[id]? = some config →
    ∀ profile ∈ variantProfiles config.profiles,
      live.profileVariantModels[variantName id profile]? =
        some (variantInfo live.bundles id config.profiles profile)
  lowerVariants : ∀ (id : String) (config : ModelConfig), live.models[id]? = some config →
    ∀ key variant : String, lastVariant id (variantProfiles config.profiles) key = some variant →
      live.profileVariantNamesLower[key]? = some variant
  -- what the indexes hold beside that
  baseOf : ∀ variant id : String, live.profileVariantBaseModels[variant]? = some id →
    ∃ profile, ':' ∉ profile.toList ∧ variant = variantName id profile
  infoOf : ∀ variant ∈ live.profileVariantModels, variant ∈ live.profileVariantBaseModels
  lowerOf : ∀ key variant : String, live.profileVariantNamesLower[key]? = some variant →
    lowercase variant = key ∧ variant ∈ live.profileVariantBaseModels

/-- Every variant is one of the model's present profiles. -/
def NoLeftover (live : LiveRegistry) : Prop :=
  ∀ variant id : String, live.profileVariantBaseModels[variant]? = some id →
    ∃ config : ModelConfig, live.models[id]? = some config ∧
      ∃ profile ∈ variantProfiles config.profiles, variant = variantName id profile

/-- No other registered model has the id or a variant of this one in other letters. -/
def Unmistaken (live : LiveRegistry) (config : ModelConfig) : Prop :=
  ∀ stored ∈ exportConfigs live.toRegistry, Alike stored config → stored.name = config.name

instance (live : LiveRegistry) (config : ModelConfig) : Decidable (Unmistaken live config) :=
  inferInstanceAs (Decidable (∀ stored ∈ exportConfigs live.toRegistry, _))

/-- The variant tables with at most the variants of one model taken out. -/
structure Trimmed (live : LiveRegistry) (id : String) (bases names : Table String)
    (infos : Table ModelInfo) : Prop where
  baseFrom : ∀ variant base : String, bases[variant]? = some base →
    live.profileVariantBaseModels[variant]? = some base
  baseKept : ∀ variant base : String, live.profileVariantBaseModels[variant]? = some base →
    base ≠ id → bases[variant]? = some base
  infoFrom : ∀ variant ∈ infos, variant ∈ bases
  infoKept : ∀ variant : String, live.profileVariantBaseModels[variant]? ≠ some id →
    infos[variant]? = live.profileVariantModels[variant]?
  nameFrom : ∀ key variant : String, names[key]? = some variant →
    live.profileVariantNamesLower[key]? = some variant ∧ variant ∈ bases
  nameKept : ∀ key variant : String, live.profileVariantNamesLower[key]? = some variant →
    live.profileVariantBaseModels[variant]? ≠ some id → names[key]? = some variant

theorem trimmed_whole (hindexed : Indexed live) (id : String) :
    Trimmed live id live.profileVariantBaseModels live.profileVariantNamesLower
      live.profileVariantModels where
  baseFrom := fun _ _ hbase => hbase
  baseKept := fun _ _ hbase _ => hbase
  infoFrom := hindexed.infoOf
  infoKept := fun _ _ => rfl
  nameFrom := fun key variant hname => ⟨hname, (hindexed.lowerOf key variant hname).2⟩
  nameKept := fun _ _ hname _ => hname

omit [Letters] in
theorem mem_otherBases {id variant : String} (hmem : variant ∈ live.profileVariantBaseModels)
    (hother : live.profileVariantBaseModels[variant]? ≠ some id) :
    variant ∈ live.profileVariantBaseModels.filter fun _ base => base ≠ id := by
  obtain ⟨base, hbase⟩ := Tables.exists_of_mem hmem
  have hne : base ≠ id := by
    rintro rfl
    exact hother hbase
  rw [mem_iff_isSome_getElem?, Std.ExtTreeMap.getElem?_filter', hbase]
  simp [Option.filter, hne]

theorem trimmed_filtered (hindexed : Indexed live) (id : String) :
    Trimmed live id (live.profileVariantBaseModels.filter fun _ base => base ≠ id)
      (live.profileVariantNamesLower.filter fun _ name =>
        live.profileVariantBaseModels[name]? ≠ some id)
      (live.profileVariantModels.filter fun name _ =>
        live.profileVariantBaseModels[name]? ≠ some id) where
  baseFrom := by
    intro variant base hbase
    rw [Std.ExtTreeMap.getElem?_filter', filter_eq_some_iff] at hbase
    exact hbase.1
  baseKept := by
    intro variant base hbase hne
    rw [Std.ExtTreeMap.getElem?_filter', hbase]
    simp [Option.filter, hne]
  infoFrom := by
    intro variant hvariant
    obtain ⟨info, hinfo⟩ := Tables.exists_of_mem hvariant
    rw [Std.ExtTreeMap.getElem?_filter', filter_eq_some_iff] at hinfo
    obtain ⟨hget, hother⟩ := hinfo
    exact mem_otherBases (hindexed.infoOf variant (mem_of_get hget)) (of_decide_eq_true hother)
  infoKept := by
    intro variant hother
    rw [Std.ExtTreeMap.getElem?_filter']
    cases live.profileVariantModels[variant]? with
    | none => rfl
    | some => simp [Option.filter, hother]
  nameFrom := by
    intro key variant hname
    rw [Std.ExtTreeMap.getElem?_filter', filter_eq_some_iff] at hname
    obtain ⟨hget, hother⟩ := hname
    exact ⟨hget, mem_otherBases (hindexed.lowerOf key variant hget).2 (of_decide_eq_true hother)⟩
  nameKept := by
    intro key variant hname hother
    rw [Std.ExtTreeMap.getElem?_filter', hname]
    simp [Option.filter, hother]

/-- The registry afterwards has one model's config and variants over trimmed tables. -/
structure Registers (live after : LiveRegistry) (id : String) (config : ModelConfig)
    (bases names : Table String) (infos : Table ModelInfo) : Prop where
  bundles : after.bundles = live.bundles
  models : after.models = live.models.insert id config
  baseTable : after.profileVariantBaseModels =
    ((variantProfiles config.profiles).foldl (registerVariant id) (bases, names)).1
  nameTable : after.profileVariantNamesLower =
    ((variantProfiles config.profiles).foldl (registerVariant id) (bases, names)).2
  infoTable : after.profileVariantModels = addVariantInfos live.bundles id config.profiles infos
  lowerTable : ∀ key : String, after.modelNamesLower[key]? =
    if lowercase id = key then some id else live.modelNamesLower[key]?

section Registering

variable {after : LiveRegistry} {id : String}

section

variable (hregisters : Registers live after id config bases names infos)
include hregisters

theorem Registers.found (hstored : after.models[other]? = some stored) :
    (other = id ∧ stored = config) ∨ (other ≠ id ∧ live.models[other]? = some stored) := by
  rw [hregisters.models, get_insert] at hstored
  split_ifs at hstored with hsame
  · cases hstored
    exact .inl ⟨hsame.symm, rfl⟩
  · exact .inr ⟨Ne.symm hsame, hstored⟩

theorem Registers.mem_models : other ∈ after.models ↔ other = id ∨ other ∈ live.models := by
  rw [hregisters.models, mem_insert, compare_eq_iff_eq, eq_comm]

theorem Registers.get_base (variant : String) : after.profileVariantBaseModels[variant]? =
      if ∃ profile ∈ variantProfiles config.profiles, variantName id profile = variant then some id
      else bases[variant]? := by
  rw [hregisters.baseTable, get_registerVariant]

theorem Registers.get_name (key : String) : after.profileVariantNamesLower[key]? =
      (lastVariant id (variantProfiles config.profiles) key).or names[key]? := by
  rw [hregisters.nameTable, get_registerVariant_lower]

theorem Registers.mem_base_of_mem (hmem : variant ∈ bases) :
    variant ∈ after.profileVariantBaseModels := by
  rw [mem_iff_isSome_getElem?, hregisters.get_base]
  split_ifs
  · rfl
  · exact mem_iff_isSome_getElem?.1 hmem

theorem Registers.mem_base_of_profile (hprofile : profile ∈ variantProfiles config.profiles) :
    variantName id profile ∈ after.profileVariantBaseModels := by
  rw [mem_iff_isSome_getElem?, hregisters.get_base, if_pos ⟨profile, hprofile, rfl⟩]
  rfl

end

/-- A variant of another model is none of the new ones. -/
theorem other_variant_ne (hindexed : Indexed live) (hloadable : loadable config = true)
    (hother : other ≠ id) (hstored : live.models[other]? = some stored)
    (hprofile : profile ∈ variantProfiles stored.profiles) :
    ∀ name ∈ variantProfiles config.profiles, variantName id name ≠ variantName other profile := by
  intro name hname hsame
  exact hother (variantName_inj (colon_of_loadable hloadable hname)
    (colon_of_loadable (hindexed.named other stored hstored).2 hprofile) hsame).1.symm

/-- A registered model with an id or a variant of this one in other letters is this one. -/
theorem Unmistaken.eq (hfree : Unmistaken live config) (hindexed : Indexed live)
    (hstored : live.models[other]? = some stored) (halike : Alike stored config) :
    other = config.name := by
  rw [← (hindexed.named other stored hstored).1]
  exact hfree stored (RegistryRoutes.mem_exported.2 ⟨other, hstored⟩) halike

variable (hregisters : Registers live after id config bases names infos)
include hregisters

/-- Registering a model that has nothing of another one's in other letters keeps the
indexes. -/
theorem Registers.indexed (hindexed : Indexed live) (hderived : Derived after)
    (htrimmed : Trimmed live id bases names infos) (hname : config.name = id)
    (hloadable : loadable config = true) (hfree : Unmistaken live config) : Indexed after where
  derived := hderived
  named := by
    intro other stored hstored
    obtain ⟨rfl, rfl⟩ | ⟨-, hold⟩ := hregisters.found hstored
    · exact ⟨hname, hloadable⟩
    · exact hindexed.named other stored hold
  distinct := by
    intro first second one two hone htwo halike
    obtain ⟨rfl, rfl⟩ | ⟨-, hone⟩ := hregisters.found hone
    · obtain ⟨rfl, -⟩ | ⟨-, htwo⟩ := hregisters.found htwo
      · rfl
      · exact hname.symm.trans (hfree.eq hindexed htwo halike.symm).symm
    · obtain ⟨rfl, rfl⟩ | ⟨-, htwo⟩ := hregisters.found htwo
      · exact (hfree.eq hindexed hone halike).trans hname
      · exact hindexed.distinct first second one two hone htwo halike
  lower := by
    intro key other
    rw [hregisters.lowerTable, hregisters.mem_models]
    split_ifs with hkey
    · constructor
      · intro hsame
        cases hsame
        exact ⟨.inl rfl, hkey⟩
      · rintro ⟨rfl | hold, hlower⟩
        · rfl
        · obtain ⟨stored, hstored⟩ := Tables.exists_of_mem hold
          have halike : Alike stored config := .inl (by
            rw [(hindexed.named other stored hstored).1, hname, hlower, hkey])
          rw [hfree.eq hindexed hstored halike, hname]
    · rw [hindexed.lower]
      refine and_congr_left fun hlower => ⟨.inr, ?_⟩
      rintro (rfl | hold)
      · exact absurd hlower hkey
      · exact hold
  bases := by
    intro other stored hstored profile hprofile
    rw [hregisters.get_base]
    obtain ⟨rfl, rfl⟩ | ⟨hother, hold⟩ := hregisters.found hstored
    · rw [if_pos ⟨profile, hprofile, rfl⟩]
    · rw [if_neg]
      · exact htrimmed.baseKept _ _ (hindexed.bases other stored hold profile hprofile) hother
      · rintro ⟨name, hnew, hsame⟩
        exact other_variant_ne hindexed hloadable hother hold hprofile name hnew hsame
  variants := by
    intro other stored hstored profile hprofile
    rw [hregisters.infoTable, hregisters.bundles, get_addVariantInfos]
    obtain ⟨rfl, rfl⟩ | ⟨hother, hold⟩ := hregisters.found hstored
    · exact .inl ⟨profile, hprofile, rfl, rfl⟩
    · refine .inr ⟨other_variant_ne hindexed hloadable hother hold hprofile, ?_⟩
      rw [htrimmed.infoKept]
      · exact hindexed.variants other stored hold profile hprofile
      · rw [hindexed.bases other stored hold profile hprofile]
        exact fun hsame => hother (some.inj hsame)
  lowerVariants := by
    intro other stored hstored key variant hlast
    rw [hregisters.get_name]
    obtain ⟨rfl, rfl⟩ | ⟨hother, hold⟩ := hregisters.found hstored
    · rw [hlast]
      rfl
    · obtain ⟨profile, hprofile, rfl, hkey⟩ := lastVariant_eq_some hlast
      have hnone : lastVariant id (variantProfiles config.profiles) key = none := by
        rw [eq_none_iff_forall_ne_some]
        intro new hnew
        obtain ⟨name, hmem, rfl, hsame⟩ := lastVariant_eq_some hnew
        have halike : Alike stored config := .inr ⟨profile, hprofile, name, hmem, by
          rw [(hindexed.named other stored hold).1, hname, hkey, hsame]⟩
        exact hother ((hfree.eq hindexed hold halike).trans hname)
      rw [hnone, none_or]
      refine htrimmed.nameKept key _ (hindexed.lowerVariants other stored hold key _ hlast) ?_
      rw [hindexed.bases other stored hold profile hprofile]
      exact fun hsame => hother (some.inj hsame)
  baseOf := by
    intro variant other hbase
    rw [hregisters.get_base] at hbase
    split_ifs at hbase with hnew
    · cases hbase
      obtain ⟨profile, hprofile, rfl⟩ := hnew
      exact ⟨profile, colon_of_loadable hloadable hprofile, rfl⟩
    · exact hindexed.baseOf variant other (htrimmed.baseFrom variant other hbase)
  infoOf := by
    intro variant hvariant
    obtain ⟨info, hinfo⟩ := Tables.exists_of_mem hvariant
    rw [hregisters.infoTable, get_addVariantInfos] at hinfo
    obtain ⟨profile, hprofile, rfl, -⟩ | ⟨-, hold⟩ := hinfo
    · exact hregisters.mem_base_of_profile hprofile
    · exact hregisters.mem_base_of_mem (htrimmed.infoFrom variant (mem_of_get hold))
  lowerOf := by
    intro key variant hvariant
    rw [hregisters.get_name, or_eq_some_iff] at hvariant
    obtain hlast | ⟨-, hold⟩ := hvariant
    · obtain ⟨profile, hprofile, rfl, hkey⟩ := lastVariant_eq_some hlast
      exact ⟨hkey, hregisters.mem_base_of_profile hprofile⟩
    · obtain ⟨hbefore, hmem⟩ := htrimmed.nameFrom key variant hold
      exact ⟨(hindexed.lowerOf key variant hbefore).1, hregisters.mem_base_of_mem hmem⟩

/-- Nothing is left over when the model's earlier variants were taken out, or there were
none. -/
theorem Registers.noLeftover (hnone : NoLeftover live)
    (hfrom : ∀ variant base : String, bases[variant]? = some base →
      live.profileVariantBaseModels[variant]? = some base)
    (hgone : ∀ variant : String, bases[variant]? ≠ some id) : NoLeftover after := by
  intro variant other hbase
  rw [hregisters.get_base] at hbase
  split_ifs at hbase with hnew
  · cases hbase
    obtain ⟨profile, hprofile, rfl⟩ := hnew
    refine ⟨config, ?_, profile, hprofile, rfl⟩
    rw [hregisters.models, get_insert, if_pos rfl]
  · have hother : id ≠ other := by
      rintro rfl
      exact hgone variant hbase
    obtain ⟨stored, hstored, hprofile⟩ := hnone variant other (hfrom variant other hbase)
    refine ⟨stored, ?_, hprofile⟩
    rw [hregisters.models, get_insert, if_neg hother, hstored]

end Registering

end SieCluster.RegistryIndexes
