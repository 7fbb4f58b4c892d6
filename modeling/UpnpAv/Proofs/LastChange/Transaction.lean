import UpnpAv.Proofs.LastChange.Replication

/-!
# What a transaction reports

Between the start and the commit of a transaction nothing is reported.  The
commit reports every evented variable that was changed in between, in the order
of the identifiers and with its last value, whatever the order of the changes
and whatever other reporters do meanwhile.  Outside a transaction every change
of an evented variable is reported at once.
-/

namespace UpnpAv
namespace Board

open LastChange

/-!
# Last values
-/

/-- The value that was listed last for a variable. -/
def lastValue? (made : List (VariableId × String)) (id : VariableId) : Option String :=
  made.reverse.lookup id

theorem lastValue?_append (made : List (VariableId × String)) (id : VariableId)
    (value : String) (other : VariableId) :
    lastValue? (made ++ [(id, value)]) other =
      if other = id then some value else lastValue? made other := by
  rw [lastValue?, lastValue?, List.reverse_append, List.reverse_singleton, List.singleton_append,
    List.lookup_cons]
  by_cases hid : other = id
  · rw [if_pos hid, beq_iff_eq.mpr hid]
  · rw [if_neg hid, beq_eq_false_iff_ne.mpr hid]

/--
The entries about all variables for which something is listed, each with its
last value, in the order of the identifiers.
-/
def lastChanges (declared : List Variable) (made : List (VariableId × String)) : List Pending :=
  declared.zipIdx.filterMap fun (v, id) =>
    (lastValue? made id).map fun value => ⟨id, v.name, value⟩

theorem mem_lastChanges {declared : List Variable} {made : List (VariableId × String)}
    {entry : Pending} :
    entry ∈ lastChanges declared made <->
      declared[entry.id]?.map Variable.name = some entry.name ∧
        lastValue? made entry.id = some entry.value := by
  rw [lastChanges, List.mem_filterMap]
  constructor
  · rintro ⟨⟨v, id⟩, hplace, hentry⟩
    rcases Option.map_eq_some_iff.mp hentry with ⟨value, hvalue, rfl⟩
    rw [List.mem_zipIdx_iff_getElem?] at hplace
    exact ⟨by rw [hplace]; rfl, hvalue⟩
  · rintro ⟨hname, hvalue⟩
    rcases Option.map_eq_some_iff.mp hname with ⟨v, hv, hsame⟩
    refine ⟨(v, entry.id), List.mem_zipIdx_iff_getElem?.mpr hv, ?_⟩
    show (lastValue? made entry.id).map _ = some entry
    rw [hvalue, hsame]
    rfl

theorem ascending_lastChanges (declared : List Variable) (made : List (VariableId × String)) :
    Pending.Ascending (lastChanges declared made) := by
  have hplaces := List.pairwise_lt_range' (s := 0) (n := declared.length)
  rw [← List.zipIdx_map_snd, List.pairwise_map] at hplaces
  rw [Pending.Ascending, lastChanges, List.pairwise_filterMap]
  apply hplaces.imp
  rintro ⟨first, place⟩ ⟨second, other⟩ hlt entry hentry later hlater
  rcases Option.map_eq_some_iff.mp hentry with ⟨_, _, rfl⟩
  rcases Option.map_eq_some_iff.mp hlater with ⟨_, _, rfl⟩
  exact hlt

theorem lastChanges_nil (declared : List Variable) : lastChanges declared [] = [] := by
  rw [lastChanges, List.filterMap_eq_nil_iff]
  intro _ _
  rfl

/-- One more change is one more entry, in place of an earlier one for the same variable. -/
theorem insert_lastChanges {declared : List Variable} {made : List (VariableId × String)}
    {id : VariableId} {v : Variable} (value : String) (hv : declared[id]? = some v) :
    Pending.insert ⟨id, v.name, value⟩ (lastChanges declared made) =
      lastChanges declared (made ++ [(id, value)]) := by
  have hascending := ascending_lastChanges declared made
  apply (Pending.ascending_insert _ hascending).eq_of_mem_iff (ascending_lastChanges _ _)
  intro entry
  rw [Pending.mem_insert hascending, mem_lastChanges, mem_lastChanges, lastValue?_append]
  by_cases hid : entry.id = id
  · rw [if_pos hid, hid, hv]
    constructor
    · rintro (rfl | ⟨_, hother⟩)
      · exact ⟨rfl, rfl⟩
      · exact absurd rfl hother
    · rintro ⟨hname, hvalue⟩
      apply Or.inl
      rcases entry with ⟨entryId, name, text⟩
      cases hid
      cases hname
      cases hvalue
      rfl
  · rw [if_neg hid]
    constructor
    · rintro (rfl | ⟨hentry, _⟩)
      · exact absurd rfl hid
      · exact hentry
    · exact fun hentry => Or.inr ⟨hentry, hid⟩

/-!
# Changes while a transaction is open
-/

/-- What an assignment adds to the changes: its pair, if it changes an evented variable. -/
def news (board : Board) (id : VariableId) (value : String) : List (VariableId × String) :=
  match (set id value board).result, board.table.evented? id with
  | .ok true, some true => [(id, value)]
  | _, _ => []

/--
The boards to which operations lead that do not close the transaction of one
reporter, with the changes of evented variables on the way there.
-/
inductive Makes (place : Nat) (board : Board) : List (VariableId × String) -> Board -> Prop where
  | here : Makes place board [] board
  | set {made : List (VariableId × String)} {next : Board} (id : VariableId) (value : String) :
      Makes place board made next ->
      Makes place board (made ++ next.news id value) (set id value next).state
  | attach {made : List (VariableId × String)} {next : Board} (space : String)
      (recipient : Recipient) :
      Makes place board made next -> Makes place board made (next.attach space recipient)
  | start {made : List (VariableId × String)} {next : Board} (other : Nat) :
      Makes place board made next -> Makes place board made (start other next).state
  | commit {made : List (VariableId × String)} {next : Board} {other : Nat} :
      other ≠ place -> Makes place board made next ->
      Makes place board made (commit other next).state

/-- An assignment changes nothing, or a silent variable, or makes one change. -/
theorem news_cases (id : VariableId) (value : String) (board : Board) :
    (board.news id value = [] ∧ (set id value board).state = board) ∨
      (exists slot, board.table.slots[id]? = some slot ∧
        (set id value board).state = board.assigned id slot value ∧
        board.news id value = if slot.declared.evented then [(id, value)] else []) := by
  rcases set_cases id value board with ⟨hresult, hstate⟩ | ⟨slot, hslot, _, hresult, hstate⟩
  · refine Or.inl ⟨?_, hstate⟩
    rw [news]
    split
    · next hnew _ => exact absurd hnew hresult
    · rfl
  · refine Or.inr ⟨slot, hslot, hstate, ?_⟩
    rw [news, hresult, StateTable.evented?, hslot, Option.map_some]
    cases slot.declared.evented <;> rfl

/--
While its transaction is open, a reporter sends nothing and gathers what is to
be reported about the changes so far.
-/
structure Collects (declared : List Variable) (made : List (VariableId × String))
    (before reporter : Reporter) : Prop where
  isOpen : reporter.isOpen = true
  sent : reporter.sent = before.sent
  lastDocument : reporter.lastDocument = before.lastDocument
  pending : reporter.pending = lastChanges declared made
  reports : made ≠ [] -> reporter.pending ≠ []

theorem Collects.noticed {declared : List Variable} {made : List (VariableId × String)}
    {before reporter : Reporter} {id : VariableId} {slot : Slot} (value : String)
    (hdeclared : declared[id]? = some slot.declared)
    (hcollects : Collects declared made before reporter) :
    Collects declared (made ++ if slot.declared.evented then [(id, value)] else []) before
      (reporter.noticed
        ⟨id, slot.declared.name, slot.value, value, slot.declared.evented⟩) := by
  cases hevented : slot.declared.evented with
  | false =>
      rw [if_neg Bool.false_ne_true, List.append_nil]
      exact hcollects
  | true =>
      rw [if_pos rfl, Reporter.noticed, if_pos rfl, if_pos hcollects.isOpen]
      refine ⟨hcollects.isOpen, hcollects.sent, hcollects.lastDocument, ?_, ?_⟩
      · show Pending.insert _ reporter.pending = _
        rw [hcollects.pending, insert_lastChanges value hdeclared]
      · intro _
        exact Pending.insert_ne_nil _ _

theorem Makes.collects {place : Nat} {board closing : Board} {declared : List Variable}
    {made : List (VariableId × String)} {before : Reporter}
    (hmakes : Makes place board made closing) (hdeclared : board.table.declared = declared)
    (hplace : place < board.reporters.length)
    (hboard : Collects declared [] before (board.reporter place)) :
    closing.table.declared = declared ∧ place < closing.reporters.length ∧
      Collects declared made before (closing.reporter place) := by
  induction hmakes with
  | here =>
      exact ⟨hdeclared, hplace, hboard⟩
  | set id value _ ih =>
      rcases ih with ⟨hkept, hlt, hcollects⟩
      rename_i next _
      rcases news_cases id value next with ⟨hnews, hstate⟩ | ⟨slot, hslot, hstate, hnews⟩
      · rw [hnews, hstate, List.append_nil]
        exact ⟨hkept, hlt, hcollects⟩
      · have hv : declared[id]? = some slot.declared :=
          hkept ▸ StateTable.declared_of_slot hslot
        rw [hnews, hstate, reporter_assigned id slot value hlt, length_assigned]
        exact ⟨(StateTable.declared_written ..).trans hkept, hlt, hcollects.noticed value hv⟩
  | attach space recipient _ ih =>
      rcases ih with ⟨hkept, hlt, hcollects⟩
      rw [reporter_attach space recipient hlt]
      exact ⟨hkept, lt_length_attach space recipient hlt, hcollects⟩
  | start other _ ih =>
      rcases ih with ⟨hkept, hlt, hcollects⟩
      rw [reporter_start other hlt, length_start]
      refine ⟨hkept, hlt, ?_⟩
      split
      · -- The reporter refuses to open its transaction again.
        exact ⟨rfl, hcollects.sent, hcollects.lastDocument, hcollects.pending, hcollects.reports⟩
      · exact hcollects
  | commit hother _ ih =>
      rcases ih with ⟨hkept, hlt, hcollects⟩
      rw [reporter_commit _ hlt, length_commit, if_neg fun hboth => hother hboth.1]
      exact ⟨hkept, hlt, hcollects⟩

/-- Another reporter carries out a whole transaction, unless it has one open already. -/
theorem Makes.transaction {α : Type} {place other : Nat} {board next : Board}
    {made all : List (VariableId × String)} {body : Act Board Reporter.Error α}
    (hother : other ≠ place) (hmakes : Makes place board made next)
    (hbody : Makes place board all (body (Board.start other next).state).state) :
    Makes place board (if (Board.start other next).result.isOk then all else made)
      (Board.transaction other body next).state := by
  rw [transaction_state]
  cases (Board.start other next).result with
  | error e =>
      exact hmakes.start other
  | ok done =>
      exact hbody.commit hother

/-!
# Starting and committing
-/

theorem closed_of_start {place : Nat} {board : Board}
    (hstart : (start place board).result = .ok ()) : (board.reporter place).isOpen = false := by
  rw [start_result] at hstart
  cases hopen : (board.reporter place).isOpen with
  | false =>
      rfl
  | true =>
      rw [hopen] at hstart
      cases hstart

theorem start_collects {place : Nat} {board : Board} {declared : List Variable}
    (hplace : place < board.reporters.length)
    (hpending : (board.reporter place).pending = []) :
    Collects declared [] (board.reporter place) ((start place board).state.reporter place) := by
  rw [reporter_start place hplace, if_pos rfl]
  refine ⟨rfl, rfl, rfl, ?_, fun hmade => absurd rfl hmade⟩
  rw [lastChanges_nil]
  exact hpending

theorem commit_open {place : Nat} {board : Board} (hplace : place < board.reporters.length)
    (hopen : (board.reporter place).isOpen = true) :
    (commit place board).result = .ok () ∧
      (commit place board).state.reporter place = (board.reporter place).committed := by
  constructor
  · rw [commit_result, if_pos hopen]
  · rw [reporter_commit place hplace, if_pos ⟨rfl, hopen⟩]

/-!
# Reports
-/

/-- The commit sends one document about what was gathered, or nothing when nothing was. -/
theorem committed_reports {declared : List Variable} {made : List (VariableId × String)}
    {before reporter : Reporter}
    (hnames : forall v, v ∈ declared -> isName v.name = true)
    (hcollects : Collects declared made before reporter) :
    (made = [] -> reporter.committed.sent = before.sent ∧
      reporter.committed.lastDocument = before.lastDocument) ∧
    (made ≠ [] -> exists document,
      reporter.committed.sent = before.sent ++ [document] ∧
      reporter.committed.lastDocument = some document ∧
      Document.decode document = .ok ((lastChanges declared made).map Pending.pair)) := by
  constructor
  · rintro rfl
    have hpending := hcollects.pending
    rw [lastChanges_nil] at hpending
    rw [Reporter.committed, if_pos hpending]
    exact ⟨hcollects.sent, hcollects.lastDocument⟩
  · intro hmade
    rw [Reporter.committed, if_neg (hcollects.reports hmade), hcollects.pending]
    refine ⟨_, congrArg (fun sent => sent ++ _) hcollects.sent, rfl, ?_⟩
    apply Document.decode_encode
    intro pair hpair
    rcases List.mem_map.mp hpair with ⟨entry, hentry, rfl⟩
    rcases Option.map_eq_some_iff.mp (mem_lastChanges.mp hentry).1 with ⟨v, hv, hname⟩
    rw [show entry.pair.1 = v.name from hname.symm]
    exact hnames v (List.mem_of_getElem? hv)

/-- Outside a transaction a change of an evented variable is a document of its own. -/
theorem noticed_reports {reporter : Reporter} {slot : Slot} (hclosed : reporter.isOpen = false)
    (hname : isName slot.declared.name = true) (hevented : slot.declared.evented = true)
    (id : VariableId) (value : String) :
    exists document,
      (reporter.noticed ⟨id, slot.declared.name, slot.value, value, slot.declared.evented⟩).sent =
        reporter.sent ++ [document] ∧
      (reporter.noticed
        ⟨id, slot.declared.name, slot.value, value, slot.declared.evented⟩).lastDocument =
        some document ∧
      Document.decode document = .ok [(slot.declared.name, value)] := by
  rw [Reporter.noticed, if_pos hevented, if_neg (by rw [hclosed]; exact Bool.false_ne_true)]
  refine ⟨_, rfl, rfl, ?_⟩
  apply Document.decode_encode
  intro pair hpair
  rw [List.mem_singleton.mp hpair]
  exact hname

/--
While the transaction of a reporter is open it sends nothing.  The commit sends
nothing when no evented variable changed, and otherwise one document, which
lists the changed variables in order, each once and with its last value.  While
no transaction is open, each change of an evented variable is one document, and
nothing else is any.
-/
theorem transaction_reports_last_changes {declared : List Variable} {board now : Board}
    {space : String} {recipient : Recipient} {place : Nat}
    (hnames : forall v, v ∈ declared -> isName v.name = true)
    (hboard : Reaches (ofVariables declared) board) (hplace : place = board.reporters.length)
    (hnow : Reaches (board.attach space recipient) now) :
    let before := now.reporter place
    ((start place now).result = .ok () ->
      forall made closing, Makes place (start place now).state made closing ->
        let after := (commit place closing).state.reporter place
        (closing.reporter place).sent = before.sent ∧
        (commit place closing).result = .ok () ∧
        (made = [] -> after.sent = before.sent ∧ after.lastDocument = before.lastDocument) ∧
        (made ≠ [] -> exists document,
          after.sent = before.sent ++ [document] ∧
          after.lastDocument = some document ∧
          Document.decode document = .ok ((lastChanges declared made).map Pending.pair))) ∧
    (before.isOpen = false ->
      forall id value,
        let after := (set id value now).state.reporter place
        (now.news id value = [] -> after = before) ∧
        (now.news id value ≠ [] -> exists v document,
          declared[id]? = some v ∧
          after.sent = before.sent ++ [document] ∧
          after.lastDocument = some document ∧
          Document.decode document = .ok [(v.name, value)])) := by
  intro before
  have hdeclared : now.table.declared = declared := hnow.declared.trans hboard.declared_eq
  rcases hplace ▸ hnow.waits with ⟨hlt, hwaits⟩
  constructor
  · intro hstart made closing hmakes after
    have hopened : Collects declared [] before ((start place now).state.reporter place) :=
      start_collects hlt (hwaits.closed (closed_of_start hstart))
    have hlength : place < (start place now).state.reporters.length := by
      rw [start, onReporter_state, List.length_set]
      exact hlt
    rcases hmakes.collects hdeclared hlength hopened with ⟨_, hltClosing, hcollects⟩
    rcases commit_open hltClosing hcollects.isOpen with ⟨hresult, hafter⟩
    refine ⟨hcollects.sent, hresult, ?_⟩
    rw [show after = _ from hafter]
    exact committed_reports hnames hcollects
  · intro hclosed id value after
    rcases news_cases id value now with ⟨hnews, hstate⟩ | ⟨slot, hslot, hstate, hnews⟩
    · exact ⟨fun _ => congrArg (fun reached => reporter reached place) hstate,
        fun hsome => absurd hnews hsome⟩
    · have hv : declared[id]? = some slot.declared := by
        rw [← hdeclared, StateTable.declared, List.getElem?_map, hslot]
        rfl
      have hafter : after = before.noticed
          ⟨id, slot.declared.name, slot.value, value, slot.declared.evented⟩ := by
        show (set id value now).state.reporter place = _
        rw [hstate, reporter_assigned id slot value hlt]
      rw [hnews, hafter]
      cases hevented : slot.declared.evented with
      | false =>
          exact ⟨fun _ => rfl, fun hsome => absurd rfl hsome⟩
      | true =>
          refine ⟨fun hnone => absurd hnone (by simp), fun _ => ?_⟩
          rcases noticed_reports hclosed (hnames _ (List.mem_of_getElem? hv)) hevented id value with
            ⟨document, hsent, hlast, hread⟩
          rw [hevented] at hsent hlast
          exact ⟨slot.declared, document, hv, hsent, hlast, hread⟩

/-- Variables of a device that renders sound. -/
def soundVariables : List Variable :=
  [.subscribed "Volume" "50", .silent "Clock" "0", .subscribed "Mute" "0"]

/-- Two reporters, the second of which has sent a document. -/
def twoReporters : Board :=
  (((ofVariables soundVariables).attach "urn:first" .function).attach "urn:second" .function).run
    [.set 0 "40"]

/--
Within a transaction of the second reporter, the first one carries out a whole
one, and a variable is changed and changed back.  Later one variable changes.
-/
theorem transaction_reports_last_changes_overlapping :
    (exists made closing document,
      (start 1 twoReporters).result = .ok () ∧
      Makes 1 (start 1 twoReporters).state made closing ∧
      made = [(2, "1"), (0, "30"), (2, "0")] ∧
      ((commit 1 closing).state.reporter 1).sent =
        (twoReporters.reporter 1).sent ++ [document] ∧
      Document.decode document = .ok [("Volume", "30"), ("Mute", "0")]) ∧
    (twoReporters.reporter 1).isOpen = false ∧
    exists document,
      ((set 2 "1" twoReporters).state.reporter 1).sent =
        (twoReporters.reporter 1).sent ++ [document] ∧
      Document.decode document = .ok [("Mute", "1")] := by
  have hboard : Reaches (ofVariables soundVariables)
      ((ofVariables soundVariables).attach "urn:first" .function) :=
    Reaches.attach _ _ (Reaches.here _)
  have hnow : Reaches
      (((ofVariables soundVariables).attach "urn:first" .function).attach "urn:second" .function)
      twoReporters :=
    reaches_run _ (Reaches.here _)
  have hopened : Makes 1 (start 1 twoReporters).state [] (start 1 twoReporters).state := Makes.here
  have hmuted := hopened.set 2 "1"
  have hturned : Makes 1 _ _ (transaction 0 ((set 0 "30").mapError Reporter.Error.table) _).state :=
    hmuted.transaction (by decide) ((hmuted.start 0).set 0 "30")
  have hmakes := ((hturned.set 1 "9").set 7 "9").set 2 "0"
  rcases transaction_reports_last_changes (by decide) hboard rfl hnow with ⟨hinside, houtside⟩
  constructor
  · rcases hinside rfl _ _ hmakes with ⟨_, _, _, hreported⟩
    rcases hreported (by decide) with ⟨document, hsent, _, hread⟩
    exact ⟨_, _, document, rfl, hmakes, by decide, hsent, hread.trans (by decide)⟩
  · refine ⟨rfl, ?_⟩
    rcases (houtside rfl 2 "1").2 (by decide) with ⟨v, document, hv, hsent, _, hread⟩
    cases hv
    exact ⟨document, hsent, hread⟩

end Board
end UpnpAv
