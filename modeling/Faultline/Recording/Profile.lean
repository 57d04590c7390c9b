import Faultline.Table
import Faultline.Value.Basic

namespace Faultline

/-- A value seen at a site: the `ordinal`-th there, counted from zero and in 32 bits, in one run of a test. -/
structure Observation where
  site : UInt32
  ordinal : UInt32
  type : ValueType
  value : Value
deriving DecidableEq

/-- What one run of a test saw. The latest observation stands first in `latest`, and `counts` says how many
there are of each site. -/
structure Profile where
  test : String
  latest : List Observation
  counts : Table UInt32 UInt32
deriving DecidableEq

namespace Profile

def empty (test : String) : Profile := ⟨test, [], .empty⟩

/-- How often a site was seen. -/
def occurrences (profile : Profile) (site : UInt32) : UInt32 := (profile.counts.get? site).getD 0

/-- Adds an observation, whose ordinal is the number of earlier ones at its site. -/
def record (profile : Profile) (site : UInt32) (type : ValueType) (value : Value) : Profile :=
  let ordinal := profile.occurrences site
  { profile with
    latest := ⟨site, ordinal, type, value⟩ :: profile.latest
    counts := profile.counts.insert site (ordinal + 1) }

/-- Adds an observation and tells its ordinal. -/
def note (profile : Profile) (site : UInt32) (type : ValueType) (value : Value) : UInt32 × Profile :=
  (profile.occurrences site, profile.record site type value)

/-- The observations in the order in which they were made. -/
def observations (profile : Profile) : List Observation := profile.latest.reverse

def size (profile : Profile) : Nat := profile.latest.length

def isEmpty (profile : Profile) : Bool := profile.latest.isEmpty

/-- The sites seen, in the order of their first occurrence. -/
def sites (profile : Profile) : List UInt32 :=
  (profile.observations.foldl
    (fun seen observation =>
      if observation.site ∈ seen then seen else observation.site :: seen) []).reverse

def first? (profile : Profile) (site : UInt32) : Option Observation :=
  profile.observations.find? (·.site = site)

def value? (profile : Profile) (site ordinal : UInt32) : Option Value :=
  (profile.observations.find? fun observation =>
    observation.site = site && observation.ordinal = ordinal).map (·.value)

/-- The values seen at a site, in order. -/
def valuesAt (profile : Profile) (site : UInt32) : List Value :=
  (profile.observations.filter (·.site = site)).map (·.value)

end Profile

end Faultline
