import EmulatedShell.Proofs.Identifiers
import EmulatedShell.Proofs.Session.Run

namespace EmulatedShell

mutual

/-- The records that an answer shows, those that were made meanwhile first. -/
def Answer.records : Answer → List Record
  | .record result _ during _ => recordsIn during ++ result.toOption.join.toList
  | .output _ _ during _ => recordsIn during
  | _ => []

/-- The records that answers show. -/
def recordsIn : List Answer → List Record
  | [] => []
  | answer :: rest => answer.records ++ recordsIn rest

end

theorem Session.begin_issues {host : Host} {line : String} {s t : Session} {p : Pending}
    (h : s.begin host line = (.ok p, t)) :
    p.id.number = s.issued + 1 ∧ t.issued = s.issued + 1 := by
  rcases begin_cases host line s with ⟨_, _, begins⟩ | ⟨_, _, _, begins⟩ | ⟨_, begins⟩
  · cases begins.symm.trans h
    exact ⟨rfl, begun_issued⟩
  · cases begins.symm.trans h
  · cases begins.symm.trans h

/-- A command line that does not begin may have been given an identifier all the same. -/
theorem Session.begin_error_issues {host : Host} {line : String} {s t : Session} {fault : Fault}
    (h : s.begin host line = (.error fault, t)) : s.issued ≤ t.issued := by
  rcases begin_cases host line s with ⟨_, _, begins⟩ | ⟨_, _, _, begins⟩ | ⟨_, begins⟩
  · cases begins.symm.trans h
  · cases begins.symm.trans h
    have counted : (s.begun host).issued = s.issued + 1 := begun_issued
    exact Nat.le_of_lt (counted ▸ Nat.lt_succ_self _)
  · cases begins.symm.trans h
    exact Nat.le_refl _

namespace Scene

/-- The records among events. -/
def recorded (events : List Event) : List Record :=
  events.filterMap fun
    | .recorded r => some r
    | .cleared => none

theorem recorded_append (events more : List Event) :
    recorded (events ++ more) = recorded events ++ recorded more :=
  List.filterMap_append

/-- What one shell does for any number of sessions, and the records that come of it. At any time it
may go on with another session, by another clock and with other random numbers, and a line may be
given up while it waits. Only the count of identifiers goes on. -/
inductive Service (host : Host) (x : Scene) : List Record → Scene → Prop
  | stay : Service host x [] x
  | step {y z : Scene} {records : List Record} {events : List Event} :
      Service host x records y → Step host y events z →
        Service host x (records ++ recorded events) z
  | turn {s t : Session} {waiting : List Pending} {records : List Record} :
      Service host x records ⟨s, waiting⟩ → t.issued = s.issued →
        Service host x records ⟨t, waiting⟩
  | giveUp {s : Session} {p : Pending} {waiting : List Pending} {records : List Record} :
      Service host x records ⟨s, p :: waiting⟩ → Service host x records ⟨s, waiting⟩

variable {host : Host} {x y : Scene} {s t u : Session}

theorem Run.service {events : List Event} (run : Run host x events y) :
    Service host x (recorded events) y := by
  induction run with
  | stay => exact .stay
  | next _ step ih =>
    rw [recorded_append]
    exact ih.step step

/-- The numbers of records and of lines that wait, which have theirs before there is a record. -/
def numbers (records : List Record) (waiting : List Pending) : List Nat :=
  records.map (fun r => r.id.number) ++ waiting.map fun p => p.id.number

/-- No number is given out twice, and none that is beyond the count. -/
structure Numbered (records : List Record) (x : Scene) : Prop where
  distinct : (numbers records x.waiting).Nodup
  issued : ∀ n ∈ numbers records x.waiting, n ≤ x.session.issued

namespace Numbered

variable {records : List Record} {waiting : List Pending}

theorem start (s : Session) : Numbered [] ⟨s, []⟩ :=
  ⟨List.nodup_nil, fun n hn => absurd hn (by simp [numbers])⟩

theorem turn (h : Numbered records ⟨s, waiting⟩) (ht : s.issued ≤ t.issued) :
    Numbered records ⟨t, waiting⟩ := by
  refine ⟨h.distinct, ?_⟩
  intro n hn
  have hs : n ≤ s.issued := h.issued n hn
  exact hs.trans ht

theorem giveUp {p : Pending} (h : Numbered records ⟨s, p :: waiting⟩) :
    Numbered records ⟨s, waiting⟩ := by
  have hs : (numbers records waiting).Sublist (numbers records (p :: waiting)) :=
    (List.Sublist.refl _).append (List.sublist_cons_self _ _)
  exact ⟨h.distinct.sublist hs, fun n hn => h.issued n (hs.subset hn)⟩

theorem begin {p : Pending} (h : Numbered records ⟨s, waiting⟩)
    (hp : p.id.number = s.issued + 1) (ht : t.issued = s.issued + 1) :
    Numbered records ⟨t, p :: waiting⟩ := by
  have hperm : (numbers records (p :: waiting)).Perm (p.id.number :: numbers records waiting) :=
    List.perm_middle
  have hnew : p.id.number ∉ numbers records waiting := by
    intro hm
    have hle : p.id.number ≤ s.issued := h.issued _ hm
    omega
  refine ⟨hperm.nodup_iff.mpr (List.nodup_cons.mpr ⟨hnew, h.distinct⟩), ?_⟩
  intro n hn
  change n ≤ t.issued
  rcases List.mem_cons.mp (hperm.mem_iff.mp hn) with rfl | hold
  · omega
  · have hle : n ≤ s.issued := h.issued n hold
    omega

theorem finish {p : Pending} (h : Numbered records ⟨s, p :: waiting⟩) :
    Numbered (records ++ [(s.finish host p).1]) ⟨(s.finish host p).2, waiting⟩ := by
  have he : numbers (records ++ [(s.finish host p).1]) waiting =
      numbers records (p :: waiting) := by
    simp [numbers, Session.finish_record]
  constructor
  · rw [he]
    exact h.distinct
  · rw [he]
    exact h.issued

/-- A step keeps the numbers apart. -/
theorem step {events : List Event} (h : Numbered records x) (step : Step host x events y) :
    Numbered (records ++ recorded events) y := by
  cases step with
  | finish => exact h.finish
  | begin line hb =>
    obtain ⟨hp, ht⟩ := Session.begin_issues hb
    simpa [recorded] using h.begin hp ht
  | refuse line hb => simpa [recorded] using h.turn (Session.begin_error_issues hb)
  | @escape s p waiting fault random _ =>
    have left : Numbered records ⟨s, waiting⟩ := h.giveUp
    simpa [recorded] using
      left.turn (t := { s with executing := false, random }) (Nat.le_refl _)
  | @clear s _ => simpa [recorded] using h.turn (t := s.clear) (Nat.le_refl _)
  | @setTime s _ now => simpa [recorded] using h.turn (t := { s with now }) (Nat.le_refl _)
  | @setExecuting s _ value =>
    simpa [recorded] using h.turn (t := { s with executing := value }) (Nat.le_refl _)
  | @setRunning s _ value =>
    simpa [recorded] using h.turn (t := { s with running := value }) (Nat.le_refl _)

end Numbered

theorem Service.numbered {records : List Record} (service : Service host ⟨s, []⟩ records y) :
    Numbered records y := by
  induction service with
  | stay => exact .start s
  | step _ step ih => exact ih.step step
  | turn _ same ih => exact ih.turn (Nat.le_of_eq same.symm)
  | giveUp _ ih => exact ih.giveUp

theorem Numbered.texts_nodup {records : List Record} (h : Numbered records y) :
    (records.map fun r => r.id.text).Nodup := by
  have hn : (records.map fun r => r.id.number).Nodup := (List.nodup_append.mp h.distinct).1
  apply List.pairwise_map.mpr
  apply (List.pairwise_map.mp hn).imp
  intro r r' different same
  exact different (congrArg RecordId.number (RecordId.text_injective same))

/-- A change of sessions that is a run in which records are made, whatever else is waiting. -/
def Makes (host : Host) (s : Session) (records : List Record) (t : Session) : Prop :=
  ∀ waiting, ∃ events, Run host ⟨s, waiting⟩ events ⟨t, waiting⟩ ∧
    records.Sublist (recorded events)

variable {records more : List Record}

theorem Follows.makes (h : Follows host s t) : Makes host s [] t := by
  intro waiting
  obtain ⟨events, run⟩ := h waiting
  exact ⟨events, run, List.nil_sublist _⟩

theorem Makes.trans (first : Makes host s records t) (second : Makes host t more u) :
    Makes host s (records ++ more) u := by
  intro waiting
  obtain ⟨events, run, made⟩ := first waiting
  obtain ⟨later, rest, madeLater⟩ := second waiting
  refine ⟨events ++ later, run.trans rest, ?_⟩
  rw [recorded_append]
  exact made.append madeLater

theorem Makes.fewer (h : Makes host s records t) (fewer : more.Sublist records) :
    Makes host s more t := by
  intro waiting
  obtain ⟨events, run, made⟩ := h waiting
  exact ⟨events, run, fewer.trans made⟩

theorem makes_interlude {meanwhile : Session → List Answer × Session}
    (hm : ∀ s, Makes host s (recordsIn (meanwhile s).1) (meanwhile s).2) (s : Session) :
    Makes host (s.begun host) (recordsIn (s.interlude host meanwhile).1)
      (s.interlude host meanwhile).2 := by
  unfold Session.interlude
  split
  · exact hm _
  · exact (Follows.refl _).makes

theorem makes_executeAmid {meanwhile : Session → List Answer × Session}
    (hm : ∀ s, Makes host s (recordsIn (meanwhile s).1) (meanwhile s).2) (line : String)
    (s : Session) :
    Makes host s (recordsIn (s.executeAmid host line meanwhile).2.1 ++
      (s.executeAmid host line meanwhile).1.toOption.toList)
      (s.executeAmid host line meanwhile).2.2 := by
  intro waiting
  obtain ⟨events, between, made⟩ := makes_interlude hm s (s.pending line :: waiting)
  rcases run_executeAmid between with
    ⟨r, result, told, run⟩ | ⟨fault, result, told, run⟩ | ⟨fault, result, told, run⟩ <;>
    rw [result, told] <;> refine ⟨_, run, ?_⟩
  · rw [recorded_append]
    exact made.append (List.Sublist.refl _)
  · simpa [Except.toOption] using made
  · exact List.nil_sublist _

theorem makes_submitAmid {meanwhile : Session → List Answer × Session}
    (hm : ∀ s, Makes host s (recordsIn (meanwhile s).1) (meanwhile s).2) (line : String)
    (s : Session) :
    Makes host s (recordsIn (s.submitAmid host line meanwhile).2.1 ++
      (s.submitAmid host line meanwhile).1.toOption.join.toList)
      (s.submitAmid host line meanwhile).2.2 := by
  cases hc : s.consider line with
  | ignored =>
    rw [Session.submitAmid_of_ignored hc]
    exact (Follows.refl s).makes
  | clearing =>
    rw [Session.submitAmid_of_clearing hc]
    exact (follows_clear s).makes
  | accepted l =>
    rw [Session.submitAmid_of_accepted hc]
    have he := makes_executeAmid hm l s
    cases hr : (s.executeAmid host l meanwhile).1 with
    | error fault => simpa [hr, Except.map, Except.toOption] using he
    | ok r => simpa [hr, Except.map, Except.toOption] using he

theorem makes_of_no_records {operation : Operation}
    (h : (s.perform host operation).1.records = []) :
    Makes host s (s.perform host operation).1.records (s.perform host operation).2 := by
  rw [h]
  exact (follows_perform operation s).makes

mutual

theorem makes_perform (operation : Operation) (s : Session) :
    Makes host s (s.perform host operation).1.records (s.perform host operation).2 := by
  cases operation with
  | submit line during =>
    rw [Session.perform_submit, Answer.records]
    exact makes_submitAmid (makes_performAll during) line s
  | run line during =>
    rw [Session.perform_run, Answer.records]
    exact (makes_submitAmid (makes_performAll during) line s).fewer
      (List.sublist_append_left _ _)
  | execute line during =>
    rw [Session.perform_execute, Answer.records]
    have he := makes_executeAmid (makes_performAll during) line s
    cases hr : (s.executeAmid host line (Session.performAll host during)).1 with
    | error fault => simpa [hr, Except.map, Except.toOption] using he
    | ok r => simpa [hr, Except.map, Except.toOption] using he
  | converse _ =>
    exact makes_of_no_records (by rw [Session.perform_converse]; rfl)
  | clear | setTime _ | setExecuting _ | observe | suggest _ | accept _ | complete _ _ | prompt
  | setting =>
    exact makes_of_no_records (by rw [Session.perform]; rfl)

theorem makes_performAll (operations : List Operation) (s : Session) :
    Makes host s (recordsIn (s.performAll host operations).1)
      (s.performAll host operations).2 := by
  cases operations with
  | nil => exact (Follows.refl s).makes
  | cons operation rest =>
    rw [Session.performAll_cons, recordsIn]
    exact (makes_perform operation s).trans (makes_performAll rest _)

end

/-- No identifier is ever given to two records: not over all that one shell does for its sessions,
and not in what any operations answer, whatever the clock shows. -/
theorem ids_never_repeat (host : Host) (s : Session) :
    (∀ records x, Service host ⟨s, []⟩ records x → (records.map fun r => r.id.text).Nodup) ∧
    ∀ operations : List Operation,
      ((recordsIn (s.performAll host operations).1).map fun r => r.id.text).Nodup := by
  have serves : ∀ records x, Service host ⟨s, []⟩ records x →
      (records.map fun r => r.id.text).Nodup := by
    intro records x service
    exact service.numbered.texts_nodup
  refine ⟨serves, ?_⟩
  intro operations
  obtain ⟨events, run, made⟩ := @makes_performAll host operations s []
  exact (serves _ _ run.service).sublist (made.map _)

/-- A morning before the time that clocks count from. -/
def earlyMorning : Moment := ⟨1965, 3, 1, 6, 30, 0, 250000⟩

/-- A moment without a timestamp. -/
def firstMorning : Moment := ⟨1, 1, 1, 0, 0, 0, 0⟩

theorem errand_ids_never_repeat :
    (∃ records x, Service usualShell ⟨Session.outset, []⟩ records x ∧
      records.map (fun r => (r.line, r.id.number)) = [("pwd", 2), ("ls", 1)] ∧
      (records.map fun r => r.id.text).Nodup) ∧
    (recordsIn (Session.outset.performAll usualShell
      [.submit "ls" [.execute "pwd" [], .clear, .setTime firstMorning], .execute "ls" [],
        .setTime earlyMorning, .run "who" [.submit "pwd" [], .execute "ls" []]]).1).map
          (fun r => (r.line, r.id.number)) = [("pwd", 2), ("ls", 1), ("ls", 4)] ∧
    ((recordsIn (Session.outset.performAll usualShell
      [.submit "ls" [.execute "pwd" [], .clear, .setTime firstMorning], .execute "ls" [],
        .setTime earlyMorning, .run "who" [.submit "pwd" [], .execute "ls" []]]).1).map
          fun r => r.id.text).Nodup := by
  obtain ⟨serves, performs⟩ := ids_never_repeat usualShell .outset
  let begun := Session.outset.begun usualShell
  let elsewhere : Session := { begun with directory := "/var", history := [], now := earlyMorning }
  have first : Service usualShell ⟨Session.outset, []⟩ [] ⟨begun, [Session.outset.pending "ls"]⟩ :=
    Service.stay.step (.begin "ls" (Session.begin_of_timestamp (by decide)))
  have turned : Service usualShell ⟨Session.outset, []⟩ []
      ⟨elsewhere, [Session.outset.pending "ls"]⟩ := first.turn rfl
  have second := turned.step (.begin "pwd" (Session.begin_of_timestamp (by decide)))
  have third := second.step (.finish (Session.uncaught_of_shell _ _))
  have fourth := third.step (.begin "cd /tmp" (Session.begin_of_timestamp (by decide)))
  have fifth := fourth.giveUp
  have sixth := fifth.step (.setTime firstMorning)
  have seventh := sixth.step (.refuse "who" (Session.begin_of_no_timestamp (by decide)))
  have eighth := seventh.step .clear
  have service := eighth.step (.finish (Session.uncaught_of_shell _ _))
  refine ⟨⟨_, _, service, ?_, serves _ _ service⟩, ?_, performs _⟩
  · decide
  · decide +kernel

end Scene

end EmulatedShell
