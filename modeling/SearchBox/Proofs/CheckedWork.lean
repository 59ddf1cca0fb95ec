/- Work that may fail, seen from its end: where it succeeds, every part of it has succeeded. -/
namespace SearchBox
variable {α β ε : Type}

theorem bind_ok {x : Except ε α} {f : α → Except ε β} {b : β} (done : x >>= f = .ok b) :
    ∃ a, x = .ok a ∧ f a = .ok b := by
  cases x with
  | error fault => cases done
  | ok a => exact ⟨a, rfl, done⟩

theorem map_ok {x : Except ε α} {f : α → β} {b : β} (done : x.map f = .ok b) :
    ∃ a, x = .ok a ∧ f a = b := by
  cases x with
  | error fault => cases done
  | ok a => exact ⟨a, rfl, Except.ok.inj done⟩

theorem map_error {x : Except ε α} {f : α → β} {fault : ε} :
    x.map f = .error fault ↔ x = .error fault := by
  cases x with
  | error _ => simp [Except.map]
  | ok _ => exact iff_of_false nofun nofun

theorem mapM_ok {f : α → Except ε β} {xs : List α} {ys : List β} (done : xs.mapM f = .ok ys) :
    ys.length = xs.length ∧ ∀ y ∈ ys, ∃ x ∈ xs, f x = .ok y := by
  induction xs generalizing ys with
  | nil =>
    cases done
    simp
  | cons x rest ih =>
    rw [List.mapM_cons] at done
    obtain ⟨y, first, done⟩ := bind_ok done
    obtain ⟨more, others, done⟩ := bind_ok done
    cases done
    obtain ⟨size, sources⟩ := ih others
    refine ⟨by simp [size], List.forall_mem_cons.mpr ⟨⟨x, List.mem_cons_self, first⟩, ?_⟩⟩
    intro z member
    obtain ⟨source, inRest, same⟩ := sources z member
    exact ⟨source, List.mem_cons_of_mem x inRest, same⟩

end SearchBox
