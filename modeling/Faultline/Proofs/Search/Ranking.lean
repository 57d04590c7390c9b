import Mathlib.Data.List.Induction
import Mathlib.Data.List.Permutation
import Mathlib.Data.List.Sort
import Faultline.Proofs.Table
import Faultline.Search.Ranking

namespace Faultline

section Lists

variable {α : Type}

theorem eraseDups_concat [BEq α] [LawfulBEq α] (items : List α) (item : α) :
    (items ++ [item]).eraseDups = if item ∈ items then items.eraseDups else items.eraseDups ++ [item] := by
  rw [List.eraseDups_append]
  by_cases known : item ∈ items <;> simp [List.removeAll, known, List.eraseDups_cons]

/-- Without repetitions nothing is listed twice. -/
theorem nodup_eraseDups [BEq α] [LawfulBEq α] (items : List α) : items.eraseDups.Nodup := by
  induction items using List.reverseRecOn with
  | nil => exact List.nodup_nil
  | append_singleton items item ih =>
    rw [eraseDups_concat]
    split
    · exact ih
    · rename_i new
      exact List.nodup_append.2 ⟨ih, List.nodup_singleton item, fun a listed b last same =>
        new (List.mem_singleton.1 last ▸ same ▸ List.mem_eraseDups.1 listed)⟩

theorem length_eraseDups_le [BEq α] [LawfulBEq α] (items : List α) : items.eraseDups.length ≤ items.length :=
  (nodup_eraseDups items).length_le_of_subset fun _ => List.mem_eraseDups.1

/-- Sorting leaves items that the order does not tell apart as they stood. -/
theorem pairwise_mergeSort_of_pairwise (le : α → α → Bool) (trans : ∀ a b c, le a b → le b c → le a c)
    (total : ∀ a b, le a b || le b a) {before : α → α → Prop} {items : List α} (ordered : items.Pairwise before) :
    (items.mergeSort le).Pairwise fun a b => le a b ∧ (le b a → before a b) := by
  -- Numbered by their places, the items are sorted strictly, and equals by their numbers.
  have sorted := List.pairwise_mergeSort (List.zipIdxLE_trans trans) (List.zipIdxLE_total total) items.zipIdx
  have once : (items.zipIdx.mergeSort (List.zipIdxLE le)).Pairwise fun a b => a.2 ≠ b.2 := by
    have places : ((items.zipIdx.mergeSort (List.zipIdxLE le)).map Prod.snd).Nodup := by
      rw [((List.mergeSort_perm ..).map Prod.snd).nodup_iff, List.zipIdx_map_snd]
      exact List.nodup_range'
    exact List.pairwise_map.1 places
  rw [← List.mergeSort_zipIdx, List.pairwise_map]
  refine (sorted.and once).imp_of_mem fun {first second} listed listed' ⟨here, different⟩ => ?_
  simp only [List.mem_mergeSort, List.mem_zipIdx_iff_getElem?] at listed listed'
  simp only [List.zipIdxLE] at here
  split at here
  · rename_i least
    refine ⟨least, fun equal => ?_⟩
    rw [if_pos equal, decide_eq_true_eq] at here
    obtain ⟨inside, atFirst⟩ := List.getElem?_eq_some_iff.1 listed
    obtain ⟨inside', atSecond⟩ := List.getElem?_eq_some_iff.1 listed'
    rw [← atFirst, ← atSecond]
    exact List.pairwise_iff_getElem.1 ordered _ _ inside inside' (Nat.lt_of_le_of_ne here different)
  · cases here

end Lists

/-- The entries of a table are what a lookup finds. -/
theorem Table.mem_entries {κ ν : Type} [DecidableEq κ] [Ord κ] [Std.TransOrd κ] [Std.LawfulEqOrd κ]
    {table : Table κ ν} {key : κ} {value : ν} : (key, value) ∈ table.entries ↔ table.get? key = some value := by
  refine ⟨fun listed => ?_, Table.mem_of_get?⟩
  have once : (table.entries.map Prod.fst).Nodup := by
    refine List.pairwise_map.2 (table.ascending.imp fun {a b} below same => ?_)
    rw [same, Std.compare_self] at below
    cases below
  rw [← Table.ofList_entries table]
  exact Table.get?_ofList_of_nodup listed once

/-- The tests of the candidates at a site, each once in the order in which they appear first. -/
def testsFixed (candidates : List Candidate) (site : UInt32) : List String :=
  ((candidates.filter (·.site = site)).map (·.test)).eraseDups

/-- A ranking, with each ranked site beside the number that its candidates bear. -/
structure Ranks (candidates : List Candidate) (lookup : UInt32 → Option Site)
    (numbered : List (UInt32 × RankedSite)) : Prop where
  /-- The sites are those of the candidates that are known, each once. -/
  once : (numbered.map (·.1)).Nodup
  listed : ∀ id, id ∈ numbered.map (·.1) ↔ id ∈ candidates.map (·.site) ∧ (lookup id).isSome
  /-- A site stands with what is known of it and with the tests of its candidates. -/
  entry : ∀ ranked ∈ numbered, lookup ranked.1 = some ranked.2.site ∧
    ranked.2.fixedTests = testsFixed candidates ranked.1
  /-- More tests come first, and of equally many the lower number. -/
  ordered : numbered.Pairwise fun a b => b.2.fixedTests.length < a.2.fixedTests.length ∨
    a.2.fixedTests.length = b.2.fixedTests.length ∧ a.1 < b.1

/-- Whether two rankings have the same sites in the same order, each with the same tests in any order. -/
def SameRanking (ranked others : List RankedSite) : Prop :=
  List.Forall₂ (fun a b => a.site = b.site ∧ ∀ test, test ∈ a.fixedTests ↔ test ∈ b.fixedTests) ranked others

section Grouping

variable {candidates others : List Candidate} {site : UInt32} {test : String}

theorem mem_testsFixed :
    test ∈ testsFixed candidates site ↔ (site, test) ∈ candidates.map fun candidate =>
    (candidate.site, candidate.test) := by
  simp only [testsFixed, List.mem_eraseDups, List.mem_map, List.mem_filter, decide_eq_true_eq,
    Prod.mk.injEq, and_assoc]

theorem nodup_testsFixed (candidates : List Candidate) (site : UInt32) : (testsFixed candidates site).Nodup :=
  nodup_eraseDups _

/-- One more candidate adds its test to the site it is of, unless it is there already. -/
theorem testsFixed_concat (candidates : List Candidate) (candidate : Candidate) (site : UInt32) :
    testsFixed (candidates ++ [candidate]) site =
      if candidate.site = site then
        if candidate.test ∈ testsFixed candidates site then testsFixed candidates site
        else testsFixed candidates site ++ [candidate.test]
      else testsFixed candidates site := by
  by_cases here : candidate.site = site
  · have more : (candidates ++ [candidate]).filter (·.site = site) = candidates.filter
        (·.site = site) ++ [candidate] := by
      simp [here]
    rw [if_pos here, testsFixed, more, List.map_append, List.map_singleton, eraseDups_concat]
    exact if_congr List.mem_eraseDups.symm rfl rfl
  · simp [testsFixed, here]

theorem testsFixed_of_not_mem (absent : site ∉ candidates.map (·.site)) : testsFixed candidates site = [] := by
  have none : candidates.filter (·.site = site) = [] := by
    simpa [List.filter_eq_nil_iff] using absent
  rw [testsFixed, none]
  rfl

/-- The table has an entry for each site of a candidate, with the tests that are fixed there. -/
theorem get?_fixedTestsBySite (candidates : List Candidate) (site : UInt32) :
    (fixedTestsBySite candidates).get? site =
    if site ∈ candidates.map (·.site) then some (testsFixed candidates site) else none := by
  induction candidates using List.reverseRecOn generalizing site with
  | nil => rfl
  | append_singleton candidates candidate ih =>
    have before : ((fixedTestsBySite candidates).get? candidate.site).getD
        [] = testsFixed candidates candidate.site := by
      rw [ih]
      split
      · rfl
      · rename_i absent
        exact (testsFixed_of_not_mem absent).symm
    rw [fixedTestsBySite, List.foldl_append, List.foldl_cons, List.foldl_nil, ← fixedTestsBySite]
    rw [before, Table.get?_insert, testsFixed_concat, ih]
    by_cases here : site = candidate.site
    · subst here
      simp
    · simp [here, Ne.symm here]

/-- The sites of candidates that are known, each beside its number, in the order of the numbers. -/
def rankable (candidates : List Candidate) (lookup : UInt32 → Option Site) : List (UInt32 × RankedSite) :=
  (fixedTestsBySite candidates).entries.filterMap fun entry => (lookup entry.1).map fun site =>
    (entry.1, ⟨site, entry.2⟩)

variable {lookup : UInt32 → Option Site}

/-- A site is rankable when a candidate has it and the lookup knows it, with the tests fixed there. -/
theorem mem_rankable {ranked : UInt32 × RankedSite} : ranked ∈ rankable candidates lookup ↔
    ranked.1 ∈ candidates.map (·.site) ∧ lookup ranked.1 = some ranked.2.site ∧
      ranked.2.fixedTests = testsFixed candidates ranked.1 := by
  obtain ⟨id, site, tests⟩ := ranked
  simp only [rankable, List.mem_filterMap, Option.map_eq_some_iff, Prod.exists, Table.mem_entries,
    get?_fixedTestsBySite]
  constructor
  · rintro ⟨_, _, found, _, known, same⟩
    cases same
    obtain ⟨listed, same⟩ := Option.ite_none_right_eq_some.1 found
    exact ⟨listed, known, (Option.some.inj same).symm⟩
  · rintro ⟨listed, known, rfl⟩
    exact ⟨id, _, if_pos listed, site, known, rfl⟩

theorem rankable_ascending : (rankable candidates lookup).Pairwise fun a b => a.1 < b.1 := by
  refine (fixedTestsBySite candidates).ascending.filterMap _ fun entry entry' below ranked made ranked' made' => ?_
  obtain ⟨_, _, rfl⟩ := Option.map_eq_some_iff.1 made
  obtain ⟨_, _, rfl⟩ := Option.map_eq_some_iff.1 made'
  exact Std.compare_eq_lt.1 below

/-- The numbered sites in the order of a ranking. -/
def numberedRanking (candidates : List Candidate) (lookup : UInt32 → Option Site) : List (UInt32 × RankedSite) :=
  (rankable candidates lookup).mergeSort fun a b => decide (b.2.fixedTests.length ≤ a.2.fixedTests.length)

theorem rank_eq (candidates : List Candidate) (lookup : UInt32 → Option Site) :
    rank candidates lookup = (numberedRanking candidates lookup).map (·.2) := by
  have entries : ((fixedTestsBySite candidates).entries.filterMap fun entry =>
      (lookup entry.1).map fun site => (⟨site, entry.2⟩ : RankedSite)) = (rankable candidates lookup).map (·.2) := by
    rw [rankable, List.map_filterMap]
    simp only [Option.map_map, Function.comp_def]
  simp only [rank, entries, numberedRanking]
  exact (List.map_mergeSort (f := fun ranked : UInt32 × RankedSite => ranked.2) fun _ _ _ _ => rfl).symm

/-- The entries ascend before they are sorted, so that of sites with equally many tests the lower number stays
in front. -/
theorem ranks_numberedRanking (candidates : List Candidate) (lookup : UInt32 → Option Site) :
    Ranks candidates lookup (numberedRanking candidates lookup) := by
  have ascending : (rankable candidates lookup).Pairwise fun a b => a.1 < b.1 := rankable_ascending
  have members : ∀ {ranked}, ranked ∈ numberedRanking candidates lookup ↔
    ranked ∈ rankable candidates lookup := List.mem_mergeSort
  constructor
  case once =>
    rw [numberedRanking, ((List.mergeSort_perm ..).map Prod.fst).nodup_iff]
    exact List.pairwise_map.2 (ascending.imp UInt32.ne_of_lt)
  case listed =>
    intro id
    constructor
    · intro numbered
      obtain ⟨ranked, member, rfl⟩ := List.mem_map.1 numbered
      obtain ⟨listed, known, _⟩ := mem_rankable.1 (members.1 member)
      exact ⟨listed, known ▸ rfl⟩
    · rintro ⟨listed, known⟩
      obtain ⟨site, known⟩ := Option.isSome_iff_exists.1 known
      have member : (id, ⟨site, testsFixed candidates id⟩) ∈ rankable candidates lookup :=
        mem_rankable.2 ⟨listed, known, rfl⟩
      exact List.mem_map.2 ⟨_, members.2 member, rfl⟩
  case entry => exact fun ranked member => (mem_rankable.1 (members.1 member)).2
  case ordered =>
    have sorted := pairwise_mergeSort_of_pairwise (fun a b : UInt32 × RankedSite =>
      decide (b.2.fixedTests.length ≤ a.2.fixedTests.length)) (by simp; omega) (by simp; omega) ascending
    refine sorted.imp fun {a b} here => ?_
    obtain ⟨least, equal⟩ := here
    simp only [decide_eq_true_eq] at least equal
    rcases Nat.lt_or_eq_of_le least with fewer | same
    · exact Or.inl fewer
    · exact Or.inr ⟨same.symm, equal same.symm.le⟩

end Grouping

section Insensitive

variable {candidates others : List Candidate} {lookup : UInt32 → Option Site}
  {numbered : List (UInt32 × RankedSite)}

theorem Ranks.numbers (ranks : Ranks candidates lookup numbered) :
    (numbered.map (·.1)).Pairwise fun a b => (testsFixed candidates b).length < (testsFixed candidates a).length ∨
      (testsFixed candidates a).length = (testsFixed candidates b).length ∧ a < b := by
  refine List.pairwise_map.2 (ranks.ordered.imp_of_mem fun {a b} listed listed' before => ?_)
  rwa [(ranks.entry a listed).2, (ranks.entry b listed').2] at before

/-- Candidates that fix the same tests at the same sites rank the same. -/
theorem sameRanking_of_same (same : ∀ fix, fix ∈ others.map (fun candidate => (candidate.site, candidate.test)) ↔
    fix ∈ candidates.map fun candidate => (candidate.site, candidate.test)) (lookup : UInt32 → Option Site) :
    SameRanking (rank candidates lookup) (rank others lookup) := by
  have ranks := ranks_numberedRanking candidates lookup
  have ranks' := ranks_numberedRanking others lookup
  have tests : ∀ site test, test ∈ testsFixed others site ↔ test ∈ testsFixed candidates site := by
    simp only [mem_testsFixed, same, implies_true]
  have counts : ∀ site, (testsFixed others site).length = (testsFixed candidates site).length := fun site =>
    ((List.perm_ext_iff_of_nodup (nodup_testsFixed ..) (nodup_testsFixed ..)).2 (tests site)).length_eq
  have sites : ∀ site, site ∈ others.map (·.site) ↔ site ∈ candidates.map (·.site) := by
    intro site
    have through : ∀ candidates : List Candidate, site ∈ candidates.map (·.site) ↔
        ∃ test, (site, test) ∈ candidates.map fun candidate => (candidate.site, candidate.test) := by
      simp
    rw [through, through]
    exact exists_congr fun test => same (site, test)
  -- The order of the numbers is strict and depends on what is the same on both sides, so that it leaves one
  -- way to list them.
  have numbers : (numberedRanking candidates lookup).map (·.1) = (numberedRanking others lookup).map (·.1) := by
    have ordered := ranks'.numbers
    simp only [counts] at ordered
    refine List.Perm.eq_of_pairwise (fun a b _ _ before after => ?_) ranks.numbers ordered ?_
    · have least := UInt32.lt_asymm (a := a) (b := b)
      rcases before with more | ⟨equal, below⟩ <;> rcases after with more' | ⟨_, above⟩
      all_goals first | omega | exact absurd above (least below)
    · refine (List.perm_ext_iff_of_nodup ranks.once ranks'.once).2 fun id => ?_
      rw [ranks.listed, ranks'.listed, sites]
  have beside : List.Forall₂ (fun a b => a.1 = b.1) (numberedRanking candidates lookup)
      (numberedRanking others lookup) := by
    rw [← List.forall₂_eq_eq_eq, List.forall₂_map_left_iff, List.forall₂_map_right_iff] at numbers
    exact numbers
  rw [SameRanking, rank_eq, rank_eq, List.forall₂_map_left_iff, List.forall₂_map_right_iff]
  obtain ⟨length, zipped⟩ := List.forall₂_iff_zip.1 beside
  refine List.forall₂_iff_zip.2 ⟨length, fun {a b} paired => ?_⟩
  obtain ⟨listed, listed'⟩ := List.of_mem_zip paired
  obtain ⟨known, fixed⟩ := ranks.entry a listed
  obtain ⟨known', fixed'⟩ := ranks'.entry b listed'
  have number := zipped paired
  rw [number, known'] at known
  refine ⟨(Option.some.inj known).symm, fun test => ?_⟩
  rw [fixed, fixed', number, tests]

end Insensitive

/-- A ranking lists the known sites of the candidates, each once and with the tests that they fixed there,
those with the most tests first and of equals the lower number. The order of the candidates and their
repetitions make no difference to the sites and to the sets of their tests. -/
theorem rank_aggregates (candidates : List Candidate) (lookup : UInt32 → Option Site) :
    (∃ numbered, Ranks candidates lookup numbered ∧ rank candidates lookup = numbered.map (·.2)) ∧
      ∀ others : List Candidate, (∀ fix, fix ∈ others.map (fun candidate => (candidate.site, candidate.test)) ↔
          fix ∈ candidates.map fun candidate => (candidate.site, candidate.test)) →
        SameRanking (rank candidates lookup) (rank others lookup) :=
  ⟨⟨_, ranks_numberedRanking .., rank_eq ..⟩, fun _ same => sameRanking_of_same same lookup⟩

/-- Candidates at four sites of which the last is not known. -/
def scatteredCandidates : List Candidate :=
  [⟨1, "T::a", .int32 0, .int32 1⟩, ⟨0, "T::b", .int32 0, .int32 1⟩, ⟨2, "T::a", .int32 0, .int32 1⟩,
    ⟨2, "T::b", .int32 0, .int32 1⟩, ⟨3, "T::a", .int32 0, .int32 1⟩]

/-- The same in another order, with one of them twice. -/
def shuffledCandidates : List Candidate :=
  [⟨2, "T::b", .int32 0, .int32 1⟩, ⟨3, "T::a", .int32 0, .int32 1⟩, ⟨2, "T::b", .int32 0, .int32 2⟩,
    ⟨0, "T::b", .int32 0, .int32 1⟩, ⟨2, "T::a", .int32 0, .int32 1⟩, ⟨1, "T::a", .int32 0, .int32 1⟩]

def firstSites (id : UInt32) : Option Site :=
  if id < 3 then some ⟨id, .int32, ⟨"calc", 3, 3, 5, 9⟩, "Calc::m"⟩ else none

theorem rank_aggregates_shuffled :
    (rank scatteredCandidates firstSites).map (fun ranked => (ranked.site.id, ranked.fixedTests)) =
        [(2, ["T::a", "T::b"]), (0, ["T::b"]), (1, ["T::a"])] ∧
      (∃ numbered, Ranks scatteredCandidates firstSites numbered ∧
        rank scatteredCandidates firstSites = numbered.map (·.2)) ∧
      SameRanking (rank scatteredCandidates firstSites) (rank shuffledCandidates firstSites) := by
  obtain ⟨ranks, insensitive⟩ := rank_aggregates scatteredCandidates firstSites
  refine ⟨by cbv, ranks, insensitive shuffledCandidates fun fix => ?_⟩
  simp [shuffledCandidates, scatteredCandidates]
  tauto

end Faultline
