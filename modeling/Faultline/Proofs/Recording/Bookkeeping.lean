import Faultline.Proofs.Firsts
import Faultline.Proofs.Recording.Histories
import Mathlib.Data.List.Dedup
import Mathlib.Algebra.BigOperators.Group.List.Lemmas

namespace Faultline

section Numbered

variable {sights : List Sight} {observation other : Observation}

theorem map_site_numbered (sights : List Sight) : (numbered sights).map (·.site) = sights.map (·.site) := by
  induction sights using List.reverseRecOn with
  | nil => rfl
  | append_singleton sights sight ih =>
    rw [numbered_concat, List.map_append, List.map_append, ih]
    rfl

theorem ordinals_numbered (sights : List Sight) : (numbered sights).map (·.ordinal) =
    sights.mapIdx fun index sight => .ofNat ((sights.take index).countP (·.site = sight.site)) := by
  refine List.ext_getElem (by simp only [numbered, List.length_map, List.length_mapIdx]) fun index _ _ => ?_
  simp only [numbered, List.getElem_map, List.getElem_mapIdx]

/-- Whether no site is seen so often that its counter comes round to zero. -/
def Countable (sights : List Sight) : Prop := ∀ site, sights.countP (·.site = site) < UInt32.size

theorem Countable.sublist {sights' : List Sight} (few : Countable sights) (fewer : sights'.Sublist sights) :
    Countable sights' :=
  fun site => Nat.lt_of_le_of_lt fewer.countP_le (few site)

theorem Countable.before {sight : Sight} (few : Countable (sights ++ [sight])) : Countable sights :=
  few.sublist (List.sublist_append_left ..)

theorem Countable.toNat (few : Countable sights) (site : UInt32) :
    (UInt32.ofNat (sights.countP (·.site = site))).toNat = sights.countP (·.site = site) :=
  UInt32.toNat_ofNat_of_lt (few site)

/-- The ordinals at a site stay below the number of sights there. -/
theorem ordinal_lt_of_mem_numbered (few : Countable sights) (member : observation ∈ numbered sights) :
    observation.ordinal.toNat < sights.countP (·.site = observation.site) := by
  induction sights using List.reverseRecOn with
  | nil => cases member
  | append_singleton sights sight ih =>
    rw [numbered_concat] at member
    rw [List.countP_append]
    rcases List.mem_append.1 member with earlier | last
    · exact Nat.lt_add_right _ (ih few.before earlier)
    · cases List.mem_singleton.1 last
      rw [few.before.toNat]
      simp

/-- A site and an ordinal tell an observation. -/
theorem eq_of_mem_numbered (few : Countable sights) (member : observation ∈ numbered sights)
    (member' : other ∈ numbered sights) (site : observation.site = other.site)
    (ordinal : observation.ordinal = other.ordinal) : observation = other := by
  induction sights using List.reverseRecOn with
  | nil => cases member
  | append_singleton sights sight ih =>
    rw [numbered_concat] at member member'
    rcases List.mem_append.1 member with earlier | last <;> rcases List.mem_append.1 member' with earlier' | last'
    · exact ih few.before earlier earlier'
    · cases List.mem_singleton.1 last'
      have below := ordinal_lt_of_mem_numbered few.before earlier
      rw [ordinal, site, few.before.toNat] at below
      exact absurd below (Nat.lt_irrefl _)
    · cases List.mem_singleton.1 last
      have below := ordinal_lt_of_mem_numbered few.before earlier'
      rw [← ordinal, ← site, few.before.toNat] at below
      exact absurd below (Nat.lt_irrefl _)
    · exact (List.mem_singleton.1 last).trans (List.mem_singleton.1 last').symm

theorem values_numbered (sights : List Sight) (site : UInt32) :
    ((numbered sights).filter (·.site = site)).map (·.value) = (sights.filter (·.site = site)).map (·.value) := by
  induction sights using List.reverseRecOn with
  | nil => rfl
  | append_singleton sights sight ih =>
    rw [numbered_concat, List.filter_append, List.filter_append, List.map_append, List.map_append, ih]
    by_cases here : sight.site = site <;> simp [here]

theorem length_filter_numbered (sights : List Sight) (site : UInt32) :
    ((numbered sights).filter (·.site = site)).length = sights.countP (·.site = site) := by
  have := congrArg List.length (values_numbered sights site)
  rwa [List.length_map, List.length_map, ← List.countP_eq_length_filter (l := sights)] at this

/-- The observation with a given ordinal at a site has this place among those of the site. -/
theorem find?_numbered (few : Countable sights) (site ordinal : UInt32) :
    (numbered sights).find? (fun observation => observation.site = site && observation.ordinal = ordinal) =
      ((numbered sights).filter (·.site = site))[ordinal.toNat]? := by
  induction sights using List.reverseRecOn with
  | nil => rfl
  | append_singleton sights sight ih =>
    have count := length_filter_numbered sights site
    rw [numbered_concat, List.find?_append, ih few.before, List.filter_append]
    by_cases here : sight.site = site
    · -- The new observation comes after the others of its site, and its ordinal is their number.
      subst here
      have last := few.before.toNat sight.site
      rcases Nat.lt_trichotomy ordinal.toNat (sights.countP (·.site = sight.site)) with before | equal | after
      · rw [List.getElem?_append_left (count ▸ before), List.getElem?_eq_getElem (count ▸ before), Option.some_or]
      · have same : UInt32.ofNat (sights.countP (·.site = sight.site)) = ordinal := by
          rw [← equal, UInt32.ofNat_toNat]
        rw [equal, List.getElem?_eq_none count.le, List.getElem?_append_right count.le, count]
        simp [same]
      · have other : UInt32.ofNat (sights.countP (·.site = sight.site)) ≠ ordinal := fun same => by
          rw [same] at last
          omega
        rw [List.getElem?_eq_none (count ▸ after.le), List.getElem?_append_right (count ▸ after.le), count]
        simp [other, Nat.sub_ne_zero_of_lt after]
    · simp [here]

end Numbered

namespace Profile

/-- Adds observations one after the other and tells their ordinals. -/
def noteAll (profile : Profile) : List Sight → List UInt32 × Profile
  | [] => ([], profile)
  | sight :: rest =>
    let (ordinal, next) := profile.note sight.site sight.type sight.value
    let (ordinals, last) := next.noteAll rest
    (ordinal :: ordinals, last)

theorem noteAll_concat (profile : Profile) (sights : List Sight) (sight : Sight) :
    profile.noteAll (sights ++ [sight]) =
      ((profile.noteAll sights).1 ++ [(profile.noteAll sights).2.occurrences sight.site],
        (profile.noteAll sights).2.record sight.site sight.type sight.value) := by
  induction sights generalizing profile with
  | nil => rfl
  | cons first rest ih =>
    simp only [List.cons_append, noteAll, ih]

/-- What the queries of a profile answer that took the given calls and answered each with an ordinal. -/
structure Books (calls : List Sight) (answers : List UInt32) (profile : Profile) : Prop where
  /-- The observations are the calls in order. -/
  size : profile.size = calls.length
  observations : profile.observations = numbered calls
  /-- A call is answered with the number of earlier ones at its site. -/
  answers : answers.map (·.toNat) = calls.mapIdx fun index call => (calls.take index).countP (·.site = call.site)
  /-- The counts are those of the calls, and of the values listed. -/
  occurrences : ∀ site, (profile.occurrences site).toNat = calls.countP (·.site = site)
  counted : ∀ site, (profile.occurrences site).toNat = (profile.valuesAt site).length
  valuesAt : ∀ site, profile.valuesAt site = (calls.filter (·.site = site)).map (·.value)
  /-- A value is found by its place among those of its site. -/
  value : ∀ site ordinal, profile.value? site ordinal = (profile.valuesAt site)[ordinal.toNat]?
  beyond : ∀ site ordinal, profile.value? site ordinal = none ↔ profile.occurrences site ≤ ordinal
  first : ∀ site observation, profile.first? site = some observation ↔
    observation ∈ profile.observations ∧ observation.site = site ∧ observation.ordinal = 0
  /-- The sites are those of the calls, each once, in the order of its first call. -/
  once : profile.sites.Nodup
  listed : ∀ site, site ∈ profile.sites ↔ ∃ call ∈ calls, call.site = site
  ordered : profile.sites.Pairwise fun a b => (calls.map (·.site)).idxOf a < (calls.map (·.site)).idxOf b
  total : profile.size = (profile.sites.map fun site => (profile.occurrences site).toNat).sum

theorem shows_noteAll (test : String) (calls : List Sight) : ((empty test).noteAll calls).2.Shows test calls := by
  induction calls using List.reverseRecOn with
  | nil => exact Shows.empty test
  | append_singleton calls call ih =>
    rw [noteAll_concat]
    exact ih.appends (appends_record ..)

theorem firsts_sites (profile : Profile) :
    Firsts (fun a b => b == a) (fun _ => true) (profile.observations.map (·.site)) profile.sites := by
  have equivalence : Equivalence fun a b : UInt32 => (b == a) = true := by
    simp only [beq_iff_eq]
    exact ⟨fun _ => rfl, Eq.symm, fun first second => second.trans first⟩
  have scanned : Firsts (fun a b => b == a) (fun _ => true) (profile.observations.map (·.site)) _ :=
    .scan equivalence (fun _ _ _ => id) _
  simpa only [sites, List.foldl_map, Bool.not_true, Bool.false_or, List.any_beq, List.contains_iff_mem] using scanned

theorem nodup_sites (profile : Profile) : profile.sites.Nodup :=
  profile.firsts_sites.distinct.imp fun different same => different (beq_iff_eq.2 same.symm)

/-- The sites of a profile are those of its observations. -/
theorem mem_sites {profile : Profile} {site : UInt32} :
    site ∈ profile.sites ↔ ∃ observation ∈ profile.observations, observation.site = site := by
  rw [← List.mem_map]
  refine ⟨fun listed => (profile.firsts_sites.kept site listed).1, fun seen => ?_⟩
  have one := profile.firsts_sites.complete site seen rfl
  obtain ⟨pick, listed, same⟩ := List.countP_pos_iff.1 (one ▸ Nat.one_pos)
  exact beq_iff_eq.1 same ▸ listed

theorem first?_of_mem_sites {profile : Profile} {site : UInt32} (listed : site ∈ profile.sites) :
    ∃ first ∈ profile.latest, profile.first? site = some first ∧ first.site = site := by
  obtain ⟨observation, observed, rfl⟩ := mem_sites.1 listed
  cases found : profile.first? observation.site with
  | none =>
    have absent := List.find?_eq_none.1 found observation observed
    simp at absent
  | some first =>
    exact ⟨first, List.mem_reverse.1 (List.mem_of_find?_eq_some found), rfl, by simpa using List.find?_some found⟩

namespace Shows

variable {test : String} {calls : List Sight} {profile : Profile} {site : UInt32}

theorem occurrences_toNat (h : profile.Shows test calls) (few : Countable calls) (site : UInt32) :
    (profile.occurrences site).toNat = calls.countP (·.site = site) := by
  rw [h.occurrences, few.toNat]

/-- Every observation is counted at its site, and every site is listed once. -/
theorem total (h : profile.Shows test calls) (few : Countable calls) :
    profile.size = (profile.sites.map fun site => (profile.occurrences site).toNat).sum := by
  have sites : profile.sites.Perm (profile.observations.map (·.site)).dedup := by
    refine (List.perm_ext_iff_of_nodup profile.nodup_sites (List.nodup_dedup _)).2 fun site => ?_
    rw [mem_sites, List.mem_dedup, List.mem_map]
  have counts : (fun site => (profile.occurrences site).toNat) =
      fun site => (profile.observations.map (·.site)).count site := by
    funext site
    rw [h.occurrences_toNat few, h.observations, map_site_numbered, List.count, List.countP_map]
    rfl
  rw [counts, (sites.map _).sum_eq, List.sum_map_count_dedup_eq_length, List.length_map, Profile.observations,
    List.length_reverse, size]

/-- The first observation at a site is the one with the ordinal zero. -/
theorem first (h : profile.Shows test calls) (few : Countable calls) (observation : Observation) :
    profile.first? site = some observation ↔
      observation ∈ profile.observations ∧ observation.site = site ∧ observation.ordinal = 0 := by
  have found : profile.first? site =
      (numbered calls).find? fun observation => observation.site = site && observation.ordinal = 0 := by
    rw [first?, h.observations, find?_numbered few, UInt32.toNat_zero, ← List.head?_eq_getElem?, List.head?_filter]
  rw [found, h.observations]
  constructor
  · intro some
    have fits := List.find?_some some
    simp only [Bool.and_eq_true, decide_eq_true_eq] at fits
    exact ⟨List.mem_of_find?_eq_some some, fits⟩
  · rintro ⟨member, rfl, zero⟩
    cases other : (numbered calls).find? fun later => later.site = observation.site && later.ordinal = 0 with
    | none => simpa [zero] using List.find?_eq_none.1 other observation member
    | some later =>
      have fits := List.find?_some other
      simp only [Bool.and_eq_true, decide_eq_true_eq] at fits
      rw [eq_of_mem_numbered few (List.mem_of_find?_eq_some other) member fits.1 (fits.2.trans zero.symm)]

theorem valuesAt (h : profile.Shows test calls) (site : UInt32) :
    profile.valuesAt site = (calls.filter (·.site = site)).map (·.value) := by
  rw [Profile.valuesAt, h.observations, values_numbered]

theorem counted (h : profile.Shows test calls) (few : Countable calls) (site : UInt32) :
    (profile.occurrences site).toNat = (profile.valuesAt site).length := by
  rw [h.occurrences_toNat few, h.valuesAt, List.length_map, List.countP_eq_length_filter]

theorem value (h : profile.Shows test calls) (few : Countable calls) (site ordinal : UInt32) :
    profile.value? site ordinal = (profile.valuesAt site)[ordinal.toNat]? := by
  rw [value?, Profile.valuesAt, h.observations, find?_numbered few, List.getElem?_map]

/-- A profile that shows a list of calls keeps the books on it: sizes, ordinals, counts and lookups. -/
theorem books (h : profile.Shows test calls) (few : Countable calls) {answers : List UInt32}
    (answered : answers = (numbered calls).map (·.ordinal)) : profile.Books calls answers where
  size := by rw [size, ← List.length_reverse, ← Profile.observations, h.observations, numbered, List.length_mapIdx]
  observations := h.observations
  answers := by
    rw [answered, ordinals_numbered]
    refine List.ext_getElem (by simp) fun index _ _ => ?_
    simpa only [List.getElem_map, List.getElem_mapIdx] using
      (few.sublist (List.take_sublist index calls)).toNat _
  occurrences := h.occurrences_toNat few
  counted := h.counted few
  valuesAt := h.valuesAt
  value := h.value few
  beyond site ordinal := by
    rw [h.value few, List.getElem?_eq_none_iff, ← h.counted few, UInt32.le_iff_toNat_le]
  first _ := h.first few
  once := profile.nodup_sites
  listed site := by
    rw [mem_sites, ← List.mem_map, h.observations, map_site_numbered, List.mem_map]
  ordered := by
    have ordered := profile.firsts_sites.ordered
    rwa [h.observations, map_site_numbered] at ordered
  total := h.total few

end Shows

/-- A new profile keeps its books for any sequence of observations with fewer at each site than can be counted
in 32 bits: each is told its ordinal, and all that a profile answers agrees with the sequence. -/
theorem noteAll_books (test : String) {calls : List Sight}
    (few : ∀ site, calls.countP (·.site = site) < UInt32.size) :
    ((empty test).noteAll calls).2.Books calls ((empty test).noteAll calls).1 := by
  refine (shows_noteAll test calls).books few ?_
  clear few
  induction calls using List.reverseRecOn with
  | nil => rfl
  | append_singleton calls call ih =>
    rw [noteAll_concat, numbered_concat, List.map_append, ← ih, (shows_noteAll test calls).occurrences]
    rfl

/-- Calls at two sites, one of which is reached again. -/
def mingledCalls : List Sight := [⟨4, .int32, .int32 1⟩, ⟨2, .int32, .int32 2⟩, ⟨4, .int32, .int32 3⟩]

theorem noteAll_books_mingled : (∀ site, mingledCalls.countP (·.site = site) < UInt32.size) ∧
    ((empty "T::a").noteAll mingledCalls).1 = [0, 0, 1] ∧
    ((empty "T::a").noteAll mingledCalls).2.Books mingledCalls [0, 0, 1] := by
  have few : ∀ site, mingledCalls.countP (·.site = site) < UInt32.size := fun site =>
    Nat.lt_of_le_of_lt List.countP_le_length (by decide)
  exact ⟨few, rfl, noteAll_books "T::a" few⟩

end Profile

end Faultline
