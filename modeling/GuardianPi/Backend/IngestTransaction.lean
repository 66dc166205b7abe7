import GuardianPi.Backend.Ingest

namespace GuardianPi.Backend
open GuardianPi.Library GuardianPi.Library.Python

def telemetrySeverity (event : Value) : Value := (Json.get? "severity" event).getD .null

def isSevereEvent (event : Value) : Bool := severe (telemetrySeverity event)

def RowOf (event : Value) (row : Orm.Fields Value) : Prop :=
  row.lookup "severity" = some (some (telemetrySeverity event))

def listedEvents (data : Value) : Except PyError (List Value) :=
  (Value.get data "events" (.arr [])).bind Value.iterate

theorem forall₂_filter_reduceOption {α β : Type} {p : α → Bool} {R : α → β → Prop} {xs : List α}
    {ys : List (Option β)}
    (each : List.Forall₂ (fun x y => p x = y.isSome ∧ ∀ b ∈ y, R x b) xs ys) :
    List.Forall₂ R (xs.filter p) ys.reduceOption := by
  induction each with
  | nil => exact .nil
  | @cons x y xs ys here _ ih =>
      cases y with
      | none =>
          rw [List.filter_cons_of_neg (by simp [here.1]), List.reduceOption_cons_of_none]
          exact ih
      | some b =>
          rw [List.filter_cons_of_pos here.1, List.reduceOption_cons_of_some]
          exact .cons (here.2 b rfl) ih

section
variable {Datetime : Type} {d : Deployment Datetime}

theorem telemetrySeverity_obj (fields : List (String × Value)) :
    telemetrySeverity (.obj fields) = (Json.lookup "severity" fields).getD .null := rfl

theorem cell_of_severe {v : Value} (h : severe v = true) : cell v = some v := by
  rcases severe_cases h with rfl | rfl | rfl
  all_goals rfl

theorem rowOf_alertRow (device : String) {fields : List (String × Value)}
    (bad : isSevereEvent (.obj fields) = true) : RowOf (.obj fields) (alertRow device fields) := by
  have value : (alertRow device fields).lookup "severity" =
      some (cell (telemetrySeverity (.obj fields))) := by
    rw [telemetrySeverity_obj]
    rfl
  rw [RowOf, value, cell_of_severe bad]

theorem eventAlert_spec {deviceId : String} {event : Value} {alert : Option (Orm.Fields Value)}
    (made : eventAlert d deviceId event = .ok alert) :
    isSevereEvent event = alert.isSome ∧ ∀ row ∈ alert, RowOf event row := by
  cases event with
  | obj fields =>
      rw [eventAlert_obj] at made
      have same : isSevere fields = isSevereEvent (.obj fields) := rfl
      by_cases bad : isSevere fields = true
      · rw [if_pos bad] at made
        cases uuid : d.services.parseUuid deviceId with
        | error e =>
            rw [uuid] at made
            cases made
        | ok device =>
            rw [uuid] at made
            obtain rfl := Except.ok.inj made
            refine ⟨same.symm.trans bad, fun row here => ?_⟩
            obtain rfl := Option.some.inj here
            exact rowOf_alertRow device (same.symm.trans bad)
      · rw [if_neg bad] at made
        obtain rfl := Except.ok.inj made
        exact ⟨same.symm.trans (Bool.eq_false_iff.mpr bad), fun row here => by cases here⟩
  | null => cases made
  | bool b => cases made
  | num n => cases made
  | str s => cases made
  | arr items => cases made

theorem pendingAlerts_spec {deviceId : String} {data : Value} {processed : Nat}
    {pending : List (Orm.Fields Value)}
    (made : pendingAlerts d deviceId data = .ok (processed, pending)) :
    ∃ items, listedEvents data = .ok items ∧ processed = items.length ∧
      List.Forall₂ RowOf (items.filter isSevereEvent) pending := by
  unfold pendingAlerts at made
  unfold listedEvents
  cases listed : Value.get data "events" (.arr []) with
  | error e =>
      rw [listed] at made
      cases made
  | ok events =>
      rw [listed, ok_bind] at made
      cases iterated : Value.iterate events with
      | error e =>
          rw [iterated] at made
          cases made
      | ok items =>
          rw [iterated, ok_bind] at made
          cases alerts : items.mapM (eventAlert d deviceId) with
          | error e =>
              rw [alerts] at made
              cases made
          | ok alerts' =>
              rw [alerts, ok_bind] at made
              obtain ⟨rfl, rfl⟩ := Prod.mk.inj (Except.ok.inj made)
              refine ⟨items, iterated, rfl, forall₂_filter_reduceOption ?_⟩
              exact (mapM_eq_ok.mp alerts).imp fun _ _ => eventAlert_spec

theorem rowOf_fill {id createdAt : String} {event : Value} {pending row : Orm.Fields Value}
    (filled : Orm.fill (alertColumns id createdAt) pending = .ok row) (here : RowOf event pending) :
    RowOf event row := by
  have column : textColumn "severity" (some 50) false none ∈ alertColumns id createdAt := by
    simp [alertColumns]
  rw [RowOf, lookup_fill_textColumn column filled, here]
  rfl

omit d in
theorem forall₂_comp {α β γ : Type} {R : α → β → Prop} {S : β → γ → Prop} {T : α → γ → Prop}
    (comp : ∀ a b c, R a b → S b c → T a c) {as : List α} {bs : List β} {cs : List γ}
    (first : List.Forall₂ R as bs) (second : List.Forall₂ S bs cs) : List.Forall₂ T as cs := by
  induction first generalizing cs with
  | nil =>
      cases second
      exact .nil
  | cons here _ ih =>
      cases second with
      | cons there rest => exact .cons (comp _ _ _ here there) (ih rest)

theorem rowOf_fillAlerts {store : Store} {events : List Value} {pending rows : List (Orm.Fields Value)}
    (made : List.Forall₂ RowOf events pending) (filled : fillAlerts d store pending = .ok rows) :
    List.Forall₂ RowOf events rows := by
  have each := mapM_eq_ok.mp filled
  rw [← List.zipIdx_map_fst 0 pending, List.forall₂_map_right_iff] at made
  apply forall₂_comp _ made each
  intro event p row here there
  exact rowOf_fill there here

theorem flush_ok {store : Store} {pending rows : List (Orm.Fields Value)}
    (flushed : flush d store pending = .ok rows) : fillAlerts d store pending = .ok rows := by
  unfold flush at flushed
  cases filled : fillAlerts d store pending with
  | error e =>
      rw [filled] at flushed
      cases flushed
  | ok rows' =>
      rw [filled, Except.bind] at flushed
      split_ifs at flushed
      exact flushed

theorem transact_ok {store store' : Store} {pending : List (Orm.Fields Value)}
    (done : transact d store pending = (.ok (), store')) :
    ∃ rows, fillAlerts d store pending = .ok rows ∧ store'.alerts = store.alerts ++ rows := by
  unfold transact at done
  cases flushed : flush d store pending with
  | error e =>
      rw [flushed] at done
      cases (Prod.mk.inj done).1
  | ok rows =>
      rw [flushed] at done
      simp only at done
      split_ifs at done
      · exact ⟨rows, flush_ok flushed, (congrArg (fun r => r.2.alerts) done).symm⟩
      · cases (Prod.mk.inj done).1

theorem transact_error {store store' : Store} {pending : List (Orm.Fields Value)} {e : PyError}
    (failed : transact d store pending = (.error e, store')) : store'.alerts = store.alerts := by
  unfold transact at failed
  cases flushed : flush d store pending with
  | error e' =>
      rw [flushed] at failed
      exact (congrArg (fun r => r.2.alerts) failed).symm
  | ok rows =>
      rw [flushed] at failed
      simp only at failed
      split_ifs at failed
      · cases (Prod.mk.inj failed).1
      · exact (congrArg (fun r => r.2.alerts) failed).symm

theorem payloadData_error {payload : TelemetryPayload PyNum Datetime} {response : Response}
    (refused : payloadData d payload = .error response) : response.status = 400 := by
  unfold payloadData at refused
  split at refused
  · split at refused
    · cases refused
    · rw [← Except.error.inj refused]
      rfl
  · split at refused
    · split_ifs at refused
      rw [← Except.error.inj refused]
      rfl
    · rw [← Except.error.inj refused]
      rfl

end

/-- One alert for each severe event is committed, in order, and the answer counts them. -/
def CommitsEach {Datetime : Type} (d : Deployment Datetime) (payload : TelemetryPayload PyNum Datetime)
    (store : Store) : Prop :=
  ∃ data events rows, payloadData d payload = .ok data ∧ listedEvents data = .ok events ∧
    (ingestTelemetry d payload store).1 =
      .accepted (acceptedContent events.length (events.filter isSevereEvent).length) ∧
    (ingestTelemetry d payload store).2.alerts = store.alerts ++ rows ∧
    List.Forall₂ RowOf (events.filter isSevereEvent) rows

def CommitsNothing {Datetime : Type} (d : Deployment Datetime)
    (payload : TelemetryPayload PyNum Datetime) (store : Store) : Prop :=
  400 ≤ (ingestTelemetry d payload store).1.status ∧
    (ingestTelemetry d payload store).2.alerts = store.alerts

section
variable {Datetime : Type} {d : Deployment Datetime} {payload : TelemetryPayload PyNum Datetime}
  {store : Store}

theorem ingestTelemetry_accepted {content : Value}
    (accepted : (ingestTelemetry d payload store).1 = .accepted content) :
    CommitsEach d payload store := by
  cases read : payloadData d payload with
  | error response =>
      have answer : ingestTelemetry d payload store = (response, store) := by
        simp only [ingestTelemetry, read]
      have refused := payloadData_error read
      rw [answer] at accepted
      rw [show response = .accepted content from accepted] at refused
      cases refused
  | ok data =>
      cases made : pendingAlerts d payload.deviceId data with
      | error e =>
          simp only [ingestTelemetry, read, made] at accepted
          cases accepted
      | ok r =>
          obtain ⟨processed, pending⟩ := r
          obtain ⟨events, listed, rfl, each⟩ := pendingAlerts_spec made
          rcases done : transact d store pending with ⟨failure | _, store'⟩
          · simp only [ingestTelemetry, read, made, done] at accepted
            cases accepted
          · obtain ⟨rows, filled, stored⟩ := transact_ok done
            have answer : ingestTelemetry d payload store =
                (.accepted (acceptedContent events.length pending.length), store') := by
              simp only [ingestTelemetry, read, made, done]
            refine ⟨data, events, rows, read, listed, ?_, ?_, rowOf_fillAlerts each filled⟩
            · rw [answer, each.length_eq]
            · rw [answer]
              exact stored

theorem ingestTelemetry_refused
    (refused : ∀ content, (ingestTelemetry d payload store).1 ≠ .accepted content) :
    CommitsNothing d payload store := by
  have nothing {response : Response} {store' : Store} (refused : 400 ≤ response.status)
      (same : store'.alerts = store.alerts)
      (answer : ingestTelemetry d payload store = (response, store')) :
      CommitsNothing d payload store := by
    rw [CommitsNothing, answer]
    exact ⟨refused, same⟩
  cases read : payloadData d payload with
  | error response =>
      apply nothing (payloadData_error read).ge rfl
      simp only [ingestTelemetry, read]
  | ok data =>
      cases made : pendingAlerts d payload.deviceId data with
      | error e =>
          apply @nothing .failed store (by decide) rfl
          simp only [ingestTelemetry, read, made]
      | ok r =>
          rcases done : transact d store r.2 with ⟨failure | _, store'⟩
          · apply @nothing .failed store' (by decide) (transact_error done)
            simp only [ingestTelemetry, read, made, done]
          · apply absurd _ (refused (acceptedContent r.1 r.2.length))
            simp only [ingestTelemetry, read, made, done]

end

theorem ingestTelemetry_all_or_nothing {Datetime : Type} (d : Deployment Datetime)
    (payload : TelemetryPayload PyNum Datetime) (store : Store) :
    CommitsEach d payload store ∨ CommitsNothing d payload store := by
  cases answer : (ingestTelemetry d payload store).1 with
  | accepted content => exact Or.inl (ingestTelemetry_accepted answer)
  | refused code detail => exact Or.inr (ingestTelemetry_refused fun _ => by rw [answer]; simp)
  | invalid => exact Or.inr (ingestTelemetry_refused fun _ => by rw [answer]; simp)
  | failed => exact Or.inr (ingestTelemetry_refused fun _ => by rw [answer]; simp)

end GuardianPi.Backend
