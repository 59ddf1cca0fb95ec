/- Three-valued truth: a comparison with a missing value is neither true nor false. -/
namespace SearchBox

inductive Truth where
  | no
  | unknown
  | yes
  deriving DecidableEq, Repr

namespace Truth

def ofBool (b : Bool) : Truth := if b then yes else no

def not : Truth → Truth
  | no => yes
  | unknown => unknown
  | yes => no

def and : Truth → Truth → Truth
  | no, _ | _, no => no
  | yes, yes => yes
  | _, _ => unknown

def or : Truth → Truth → Truth
  | yes, _ | _, yes => yes
  | no, no => no
  | _, _ => unknown

def any (ts : List Truth) : Truth := ts.foldr or no

def all (ts : List Truth) : Truth := ts.foldr and yes

theorem any_singleton (t : Truth) : any [t] = t := by cases t <;> rfl

theorem all_singleton (t : Truth) : all [t] = t := by cases t <;> rfl

theorem any_eq_yes {ts : List Truth} : any ts = yes ↔ yes ∈ ts := by
  induction ts with
  | nil => simp [any]
  | cons t rest ih =>
    simp only [any, List.foldr_cons, List.mem_cons] at ih ⊢
    rw [← ih]
    cases t <;> cases List.foldr or no rest <;> simp [or]

theorem all_eq_yes {ts : List Truth} : all ts = yes ↔ ∀ t ∈ ts, t = yes := by
  induction ts with
  | nil => simp [all]
  | cons t rest ih =>
    simp only [all, List.foldr_cons, List.forall_mem_cons] at ih ⊢
    rw [← ih]
    cases t <;> cases List.foldr and yes rest <;> simp [and]

end Truth
end SearchBox
