import WastePickup.Proofs.Orders

/-!
# What fails changes nothing

A request may be refused at many points: before its command runs, by the command itself, halfway
through a piece of work of several stages, or when the booking that it answers cannot be shown. An
event that fails, wherever and for whatever reason, leaves all tables and all locks as they were.

* `Command.run_concludes`: a command is refused and leaves the world as it is, or it answers, leaves
  the locks as they are and makes one change at most.
* `Service.serve_concludes`: the same for requests.
* `step_world_of_failure`: the world after an event that fails is the world before it.

The two places where this could go wrong are covered by `World.Concludes`: work is committed as a
whole or not at all, and what has been committed can always be shown.
-/

namespace WastePickup

/-! ## Commands -/

/-- How a command ends: it is refused and leaves the world as it is, or it answers, leaves the locks
as they are and makes one change at most. -/
inductive World.Concludes (w : World) (now : Instant) (actor : Actor) :
    World × Except Refusal Answer → Prop where
  | refused (refusal : Refusal) : Concludes w now actor (w, .error refusal)
  | answered {t : Store} (answer : Answer) (h : t = w.store ∨ w.store.Change now actor t) :
      Concludes w now actor (⟨t, w.locks⟩, .ok answer)

/-- An order whose work leaves a known status is answered once the work is committed: the booking
can be shown. -/
theorem World.carryOut_concludes (w : World) (token : Token) (now : Instant) (viewer : Role)
    {actor : Actor} {booking : Int} {order : Order}
    (known : ∀ b writes, w.store.bookings.find? booking = some b →
      order.work now actor w.store b.progress = .ok writes →
        ∃ status, writes.progress.status? = some status) :
    w.Concludes now actor (World.shown viewer (w.carryOut token now actor booking order)) := by
  rcases w.carryOut_cases token now booking actor order with
    ⟨refusal, hr⟩ | ⟨b, writes, isOpen, found, work, hr⟩
  · rw [hr]
    exact .refused refusal
  · obtain ⟨status, hs⟩ := known b writes found work
    have hview : BookingView.of viewer (b.advance now writes.progress writes.rounded) =
        .ok (.ofStatus viewer (b.advance now writes.progress writes.rounded) status) := by
      rw [BookingView.of, Booking.advance_status?, hs]
    rw [hr]
    simp only [World.shown, hview, Except.map]
    exact .answered _ (.inr (.worked found (Order.worked_of_work work isOpen)))

namespace Command

/-- The orders of commands leave known statuses: an action leads to one, and a form is decided on
only where the booking has one. -/
theorem exists_status_of_order {s : Store} {now : Instant} {actor : Actor} {command : Command}
    {booking : Int} {order : Order} {b : Booking} {w : Writes}
    (order? : command.order? s = some (booking, order))
    (found : s.bookings.find? booking = some b) (work : order.work now actor s b.progress = .ok w) :
    ∃ status, w.progress.status? = some status := by
  cases order with
  | act action given =>
    obtain ⟨-, m, e, -, -, -, rfl⟩ := Store.perform_eq_ok_iff.1 work
    exact ⟨m.target, by simp [Progress.status?]⟩
  | update request =>
    obtain ⟨form, -, hdecide⟩ := order?_eq_update order?
    obtain ⟨b', status, found', known⟩ := AdminForm.decide_eq_ok hdecide
    obtain rfl : b = b' := Option.some.inj (found.symm.trans found')
    exact (Order.follows_of_work work).exists_status known

/-- A command is refused and leaves the world as it is, or it answers, leaves the locks as they are
and makes one change at most. -/
theorem run_concludes (w : World) (token : Token) (now : Instant) (actor : Actor)
    (command : Command) : w.Concludes now actor (command.run w token now actor) := by
  rcases command.run_cases w.store now actor with
    ⟨booking, order, order?, h⟩ | ⟨-, result, furnishes, h⟩
  · rw [h w.locks token]
    apply World.carryOut_concludes ⟨w.store, w.locks⟩
    intro b writes found work
    exact exists_status_of_order order? found work
  · rw [h w.locks token]
    rcases result with refusal | ⟨t, answer⟩
    · exact .refused refusal
    · exact .answered answer ((furnishes t answer rfl).imp_right Store.Furnished.change)

end Command

/-! ## Requests -/

/-- An answer is no failure. -/
theorem Answer.code_lt (answer : Answer) : answer.code < 400 := by
  unfold code
  split <;> decide

/-- How a request ends: the world is as it was, or one change was made in the name of the caller
that the headers give, and the response is no failure. -/
inductive Service.Concludes (service : Service) (now : Instant) (request : Request) :
    Service × Reply → Prop where
  | idle {next : Service} (reply : Reply) (h : next.world = service.world) :
      Concludes service now request (next, reply)
  | answered {next : Service} {actor : Actor} {t : Store} {response : Response}
      (caller : Service.readActor request.headers = .ok actor)
      (change : service.world.store.Change now actor t)
      (world : next.world = ⟨t, service.world.locks⟩) (code : response.code < 400) :
      Concludes service now request (next, .ok response)

/-- A request leaves the world as it was, or it makes one change in the name of its caller and is
answered without failure. -/
theorem Service.serve_concludes (service : Service) (token : Token) (now : Instant)
    (request : Request) : service.Concludes now request (service.serve token now request) := by
  have h := service.serve_runs token now request
  generalize service.serve token now request = result at h ⊢
  cases h with
  | idle h => exact .idle _ h
  | @ran next reply actor command asks h reply_eq =>
    have hrun := command.run_concludes service.world token now actor
    generalize command.run service.world token now actor = ended at hrun h reply_eq
    cases hrun with
    | refused refusal => exact .idle _ h
    | answered answer change =>
      rcases change with rfl | change
      · exact .idle _ h
      · rw [reply_eq]
        exact .answered asks.caller change h answer.code_lt

/-! ## Events -/

/-- A failure: a response with a code of 400 or above, a refusal, or a breakdown. -/
def Outcome.IsFailure : Outcome → Prop
  | response r => 400 ≤ r.code
  | refused _ | broken _ => True
  | booking _ | listed _ _ | seeded _ | held _ | forgotten => False

instance : (o : Outcome) → Decidable o.IsFailure
  | .response r => inferInstanceAs (Decidable (400 ≤ r.code))
  | .refused _ | .broken _ => isTrue trivial
  | .booking _ | .listed _ _ | .seeded _ | .held _ | .forgotten => isFalse id

namespace Service

variable (service : Service)

/-- The world after an event that fails is the world before it. -/
theorem step_world_of_failure (s : Step) (failure : (service.step s).2.IsFailure) :
    (service.step s).1.world = service.world := by
  obtain ⟨token, now, event⟩ := s
  cases event with
  | request r =>
    have h := service.serve_concludes token now r
    simp only [step] at failure ⊢
    generalize service.serve token now r = result at h failure ⊢
    cases h with
    | idle reply h => exact h
    | answered caller change world code => exact absurd failure (Nat.not_le.2 code)
  | act actor booking action given =>
    simp only [step, withWorld, World.applyAction] at failure ⊢
    rcases service.world.lockedUpdate_cases token now actor booking
        (fun s p => s.perform now actor action given p) with ⟨refusal, h⟩ | ⟨b, w, -, -, h⟩
    · rw [h]
    · rw [h] at failure
      exact absurd failure id
  | adminUpdate actor booking request =>
    simp only [step, withWorld, World.updateAsAdmin] at failure ⊢
    split
    · rename_i isAdmin
      rw [if_pos isAdmin] at failure
      rcases service.world.lockedUpdate_cases token now actor booking
          (fun s p => s.adminWork now actor request p) with ⟨refusal, h⟩ | ⟨b, w, -, -, h⟩
      · rw [h]
      · rw [h] at failure
        exact absurd failure id
    · rfl
  | list filter page size => rfl
  | seed =>
    simp only [step] at failure ⊢
    split
    · rename_i store report h
      rw [h] at failure
      exact absurd failure id
    · rfl
  | hold booking => exact absurd failure id
  | drop booking => exact absurd failure id
  | forget path => exact absurd failure id

/-- An admin's form cancels a booking and gives it a weight: the cancellation passes, the weight is
refused, and the booking is not cancelled. -/
theorem refused_form_keeps_booking :
    let service := Service.single ⟨"ASSIGNED", some 7, 1, none, none, none, none⟩
    let s : Step := ⟨⟨1⟩, ⟨1⟩, .request ⟨"PATCH", "/api/v1/admin/bookings/1",
      [("X-Actor-Id", "3"), ("X-Actor-Role", "ADMIN")],
      .value (.obj [("status", .str "CANCELLED"), ("actual_weight_kg", .float 5.0)])⟩⟩
    (service.step s).2.IsFailure ∧ (service.step s).1.world = service.world := by
  intro service s
  have failure : (service.step s).2.IsFailure := by decide +kernel
  exact ⟨failure, service.step_world_of_failure s failure⟩

end Service

end WastePickup
