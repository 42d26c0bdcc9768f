import Courier.Site

/-!
# Sites, backends and stores

A call on a backend reaches the store, or the connection fails and leaves the store alone. Where no
calls are to fail, a backend does what its store does. Writing to the log leaves everything else of
a site alone.
-/

namespace Courier

namespace Backend

variable (backend : Backend) (now : Instant)

theorem receive_reaches_or_fails (channels : List String) (block : Bool) :
    backend.receive now channels block =
        (.ok (backend.store.receive now channels block).1,
          { backend with
            receives := backend.receives + 1
            store := (backend.store.receive now channels block).2 }) ∨
      ∃ error, backend.receive now channels block =
        (.error error, { backend with receives := backend.receives + 1 }) := by
  rw [receive]
  cases backend.failingReceives.contains (backend.receives + 1) with
  | true => exact Or.inr ⟨_, rfl⟩
  | false => exact Or.inl rfl

theorem receive_of_reliable {backend : Backend} (reliable : backend.failingReceives = [])
    (now : Instant) (channels : List String) (block : Bool) :
    backend.receive now channels block =
      (.ok (backend.store.receive now channels block).1,
        { backend with
          receives := backend.receives + 1
          store := (backend.store.receive now channels block).2 }) := by
  rw [receive]
  simp only [reliable, List.contains_nil, Bool.false_eq_true, if_false]

theorem failingReceives_send (channel : String) (message : Message) :
    (backend.send now channel message).2.failingReceives = backend.failingReceives := by
  rw [send]
  split
  · rfl
  · rfl

end Backend

namespace Site

@[simp]
theorem backend_reportAll (site : Site) (entries : List LogEntry) :
    (site.reportAll entries).backend = site.backend := by
  induction entries generalizing site with
  | nil => rfl
  | cons entry rest ih => exact ih (site.report entry)

@[simp]
theorem registry_reportAll (site : Site) (entries : List LogEntry) :
    (site.reportAll entries).registry = site.registry := by
  induction entries generalizing site with
  | nil => rfl
  | cons entry rest ih => exact ih (site.report entry)

theorem log_reportAll (site : Site) (entries : List LogEntry) :
    (site.reportAll entries).log = entries.reverse ++ site.log := by
  induction entries generalizing site with
  | nil => rfl
  | cons entry rest ih =>
      rw [List.reverse_cons, List.append_assoc]
      exact ih (site.report entry)

end Site

end Courier
