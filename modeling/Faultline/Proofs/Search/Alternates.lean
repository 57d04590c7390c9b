import Faultline.Proofs.Firsts
import Faultline.Search.Trials

namespace Faultline

theorem Double.eq_iff_bits {x y : Double} : x = y ↔ x.bits = y.bits := by
  cases x
  cases y
  simp only [Double.mk.injEq]

namespace Value

theorem same_iff {a b : Value} : a.same b ↔ a = b := by
  induction a generalizing b with
  | float64 x =>
    cases b with
    | float64 y => simp [same, Double.eq_iff_bits]
    | _ => simp [same, equals]
  | boxed a ih => cases b <;> simp [same, equals, ih]
  | null | bool | int32 | int64 | char | string | object => cases b <;> simp [same, equals]

/-- Counting as one is an equivalence of values, and it reaches through boxes to the bits of floats. -/
theorem same_equivalence : Equivalence fun a b : Value => a.same b = true where
  refl _ := same_iff.2 rfl
  symm alike := same_iff.2 (same_iff.1 alike).symm
  trans alike alike' := same_iff.2 ((same_iff.1 alike).trans (same_iff.1 alike'))

end Value

/-- The values observed at a site, profile after profile and within each as the run went. -/
def sightings (profiles : List Profile) (site : UInt32) : List Value :=
  ((profiles.flatMap Profile.observations).filter (·.site = site)).map (·.value)

/-- Whether a value can stand in for the one to be replaced in a slot of the type. -/
def canReplace (type : ValueType) (replaced value : Value) : Bool := value.isAssignable type && !value.same replaced

theorem canReplace_iff {type : ValueType} {replaced value : Value} :
    canReplace type replaced value ↔ value.isAssignable type ∧ ¬ value.same replaced := by
  simp only [canReplace, Bool.and_eq_true, Bool.not_eq_true', Bool.not_eq_true]

theorem flatMap_valuesAt (profiles : List Profile) (site : UInt32) :
    profiles.flatMap (·.valuesAt site) = sightings profiles site := by
  simp only [sightings, Profile.valuesAt, List.filter_flatMap, List.map_flatMap]

theorem firsts_alternateValues (profiles : List Profile) (site : UInt32) (type : ValueType) (replaced : Value) :
    Firsts Value.same (canReplace type replaced) (sightings profiles site)
      (alternateValues profiles site type replaced) := by
  have respects : ∀ a b : Value, a.same b → canReplace type replaced a → canReplace type replaced b :=
    fun a b alike => Value.same_iff.1 alike ▸ id
  have scanned := Firsts.scan Value.same_equivalence respects (sightings profiles site)
  simpa only [alternateValues, flatMap_valuesAt, canReplace, Bool.not_and, Bool.not_not] using scanned

theorem mem_alternateValues {profiles : List Profile} {site : UInt32} {type : ValueType} {replaced value : Value}
    (member : value ∈ alternateValues profiles site type replaced) :
    value.isAssignable type ∧ ∃ profile ∈ profiles, ∃ observation ∈ profile.latest, observation.value = value := by
  obtain ⟨seen, fits⟩ := (firsts_alternateValues ..).kept value member
  obtain ⟨observation, observed, rfl⟩ := List.mem_map.1 seen
  obtain ⟨profile, listed, here⟩ := List.mem_flatMap.1 (List.mem_filter.1 observed).1
  exact ⟨(canReplace_iff.1 fits).1, profile, listed, observation, List.mem_reverse.1 here, rfl⟩

/-- The pool of alternates for a site holds, of the values observed there, those that a slot of the type can
hold and that do not count as one with the value to be replaced. Each of these counts as one with exactly one
member of the pool, which is the first observed of its kind, and the members stand in the order of these first
observations. -/
theorem alternateValues_pool (profiles : List Profile) (site : UInt32) (type : ValueType) (replaced : Value) :
    Equivalence (fun a b : Value => a.same b = true) ∧
      (∀ value ∈ alternateValues profiles site type replaced,
        value ∈ sightings profiles site ∧ value.isAssignable type ∧ ¬ value.same replaced) ∧
      (alternateValues profiles site type replaced).Pairwise (fun a b => ¬ a.same b) ∧
      (∀ value ∈ sightings profiles site, value.isAssignable type → ¬ value.same replaced →
        (alternateValues profiles site type replaced).countP (value.same ·) = 1) ∧
      (∀ value ∈ alternateValues profiles site type replaced,
        (sightings profiles site).find? (value.same ·) = some value) ∧
      (alternateValues profiles site type replaced).Pairwise fun a b =>
        (sightings profiles site).findIdx (a.same ·) < (sightings profiles site).findIdx (b.same ·) := by
  have pool := firsts_alternateValues profiles site type replaced
  refine ⟨Value.same_equivalence, fun value member => ?_, pool.distinct, fun value seen fits other => ?_,
    pool.first, pool.ordered⟩
  · obtain ⟨seen, fits⟩ := pool.kept value member
    rw [canReplace_iff] at fits
    exact ⟨seen, fits⟩
  · exact pool.complete value seen (canReplace_iff.2 ⟨fits, other⟩)

/-- Both zeros are alternates of another number, and a NaN that comes again with the same bits is not taken twice. -/
example :
    let profile := [Double.nan, .zero, .nan, Double.zero.neg].foldl
      (fun profile x => profile.record 1 .float64 (.float64 x)) (Profile.empty "T::a")
    alternateValues [profile] 1 .float64 (.float64 ⟨1⟩) = [.float64 .nan, .float64 .zero,
      .float64 Double.zero.neg] := by
  decide

end Faultline
