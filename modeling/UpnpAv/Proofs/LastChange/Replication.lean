import UpnpAv.Proofs.LastChange.Board
import UpnpAv.Proofs.LastChange.Document
import UpnpAv.Proofs.LastChange.Subscriber
import UpnpAv.Proofs.LastChange.Waiting

/-!
# Subscribers keep up with the table

Whoever reads the full document of a reporter at some moment, and overwrites
what it says with every later document, holds what the table says about its
evented variables, up to the entries that still wait for a commit.
-/

namespace UpnpAv

open LastChange LastChange.Subscriber

/-!
# Documents and what they lead to
-/

namespace Board

/--
From the moment when a subscriber held `held` and the reporter had sent
`before`, the documents of the reporter lead to the evented pairs of the table,
once the entries that wait are counted in.
-/
structure Follows (held : List (String × String)) (before : List String) (table : StateTable)
    (reporter : Reporter) : Prop where
  distinct : (table.declared.map Variable.name).Nodup
  waits : reporter.Waits table
  names : held.map Prod.fst = table.eventedPairs.map Prod.fst
  documents : exists updates : List (List (String × String)),
    reporter.sent = before ++ updates.map (Document.encode reporter.space) ∧
      (forall pair, pair ∈ updates.flatten -> pair.1 ∈ held.map Prod.fst) ∧
      overwriteAll held (updates.flatten ++ reporter.pending.map Pending.pair) =
        table.eventedPairs

/-- The full document is where a subscriber may start, entries that wait or not. -/
theorem follows_here {table : StateTable} {reporter : Reporter}
    (hdistinct : (table.declared.map Variable.name).Nodup) (hwaits : reporter.Waits table) :
    Follows table.eventedPairs reporter.sent table reporter := by
  refine ⟨hdistinct, hwaits, rfl, [], ?_, ?_, ?_⟩
  · rw [List.map_nil, List.append_nil]
  · intro pair hpair
    cases hpair
  · apply overwriteAll_eq_self (StateTable.nodup_names_eventedPairs hdistinct)
    intro pair hpair
    rcases List.mem_map.mp hpair with ⟨entry, hentry, rfl⟩
    exact Reporter.pair_mem_eventedPairs hwaits hentry

section

variable {held : List (String × String)} {before : List String} {table : StateTable}
  {reporter : Reporter}

theorem follows_open (hfollows : Follows held before table reporter) :
    Follows held before table { reporter with isOpen := true } :=
  ⟨hfollows.distinct, Reporter.waits_open hfollows.waits, hfollows.names, hfollows.documents⟩

/-- The commit turns the entries that wait into one more document. -/
theorem follows_committed (hfollows : Follows held before table reporter) :
    Follows held before table reporter.committed := by
  refine ⟨hfollows.distinct, Reporter.waits_committed table reporter, hfollows.names, ?_⟩
  rcases hfollows.documents with ⟨updates, hsent, hnames, hheld⟩
  by_cases hpending : reporter.pending = []
  · refine ⟨updates, ?_, hnames, ?_⟩
    · rw [Reporter.committed, if_pos hpending]
      exact hsent
    · rw [Reporter.pending_committed, ← hpending]
      exact hheld
  · refine ⟨updates ++ [reporter.pending.map Pending.pair], ?_, ?_, ?_⟩
    · rw [Reporter.committed, if_neg hpending, List.map_append, ← List.append_assoc]
      exact congrArg (fun sent => sent ++ _) hsent
    · intro pair hpair
      rw [List.flatten_append, List.flatten_singleton] at hpair
      rcases List.mem_append.mp hpair with hearlier | hwaiting
      · exact hnames pair hearlier
      · rcases List.mem_map.mp hwaiting with ⟨entry, hentry, rfl⟩
        rw [hfollows.names]
        exact List.mem_map.mpr ⟨_, Reporter.pair_mem_eventedPairs hfollows.waits hentry, rfl⟩
    · rw [Reporter.pending_committed, List.map_nil, List.append_nil, List.flatten_append,
        List.flatten_singleton]
      exact hheld

/-- Whoever holds the evented pairs overwrites one of them when its variable is written. -/
theorem overwrite_eventedPairs {id : VariableId} {slot : Slot} (value : String)
    (hdistinct : (table.declared.map Variable.name).Nodup)
    (hslot : table.slots[id]? = some slot) (hevented : slot.declared.evented = true) :
    overwrite table.eventedPairs (slot.declared.name, value) =
      (table.written id value).eventedPairs := by
  have hmem := StateTable.pair_mem_eventedPairs hslot hevented
  rw [StateTable.eventedPairs_written value hslot hevented hdistinct]
  exact overwrite_of_mem (List.mem_map.mpr ⟨_, hmem, rfl⟩)

/-- A change of an evented variable replaces its pair in what the documents lead to. -/
theorem follows_noticed {id : VariableId} {slot : Slot} (value : String)
    (hslot : table.slots[id]? = some slot) (hfollows : Follows held before table reporter) :
    Follows held before (table.written id value)
      (reporter.noticed
        ⟨id, slot.declared.name, slot.value, value, slot.declared.evented⟩) := by
  have hwaits := hfollows.waits
  have hnamesAfter : held.map Prod.fst = (table.written id value).eventedPairs.map Prod.fst := by
    rw [hfollows.names, StateTable.names_eventedPairs, StateTable.names_eventedPairs,
      StateTable.declared_written]
  have hdistinct : ((table.written id value).declared.map Variable.name).Nodup := by
    rw [StateTable.declared_written]
    exact hfollows.distinct
  refine ⟨hdistinct, Reporter.waits_noticed value hslot hwaits, hnamesAfter, ?_⟩
  rcases hfollows.documents with ⟨updates, hsent, hnames, hheld⟩
  cases hevented : slot.declared.evented with
  | false =>
      refine ⟨updates, hsent, hnames, ?_⟩
      rw [StateTable.eventedPairs_written_silent value hslot hevented]
      exact hheld
  | true =>
      have hmem : slot.declared.name ∈ held.map Prod.fst := by
        rw [hfollows.names]
        exact List.mem_map.mpr ⟨_, StateTable.pair_mem_eventedPairs hslot hevented, rfl⟩
      have hnow := overwrite_eventedPairs value hfollows.distinct hslot hevented
      cases hopen : reporter.isOpen with
      | false =>
          rw [Reporter.noticed, if_pos rfl, hopen, if_neg Bool.false_ne_true]
          refine ⟨updates ++ [[(slot.declared.name, value)]], ?_, ?_, ?_⟩
          · rw [List.map_append, ← List.append_assoc]
            exact congrArg (fun sent => sent ++ _) hsent
          · intro pair hpair
            rw [List.flatten_append, List.flatten_singleton] at hpair
            rcases List.mem_append.mp hpair with hearlier | hlast
            · exact hnames pair hearlier
            · rw [List.mem_singleton.mp hlast]
              exact hmem
          · have hpending := hwaits.closed hopen
            rw [hpending, List.map_nil, List.append_nil] at hheld
            rw [Reporter.handed, hpending, List.map_nil, List.append_nil, List.flatten_append,
              List.flatten_singleton, overwriteAll_append, hheld, overwriteAll_cons, hnow]
            rfl
      | true =>
          rw [Reporter.noticed, if_pos rfl, hopen, if_pos rfl]
          refine ⟨updates, hsent, hnames, ?_⟩
          have hall : (overwriteAll held updates.flatten).map Prod.fst = held.map Prod.fst :=
            names_overwriteAll hnames
          rw [overwriteAll_append] at hheld
          rw [overwriteAll_append, overwriteAll_insert hwaits.ascending, hheld]
          · exact hnow
          · intro other hother
            refine ⟨?_, Reporter.name_eq_iff hfollows.distinct hwaits hother hslot⟩
            rw [hall, hfollows.names]
            exact List.mem_map.mpr ⟨_, Reporter.pair_mem_eventedPairs hwaits hother, rfl⟩
          · rw [hall]
            exact hmem

end

/-!
# Reading the documents
-/

theorem decode_encode_all (space : String) (updates : List (List (String × String)))
    (hnames : forall pair, pair ∈ updates.flatten -> isName pair.1 = true) :
    (updates.map (Document.encode space)).mapM Document.decode = .ok updates := by
  induction updates with
  | nil =>
      rfl
  | cons pairs rest ih =>
      rw [List.flatten_cons] at hnames
      have hfirst := Document.decode_encode space fun pair hpair =>
        hnames pair (List.mem_append_left _ hpair)
      have hrest := ih fun pair hpair => hnames pair (List.mem_append_right _ hpair)
      rw [List.map_cons, List.mapM_cons, hfirst, hrest]
      rfl

theorem isName_of_mem_eventedPairs {table : StateTable}
    (hnames : forall declared, declared ∈ table.declared -> isName declared.name = true)
    {name : String} (hname : name ∈ table.eventedPairs.map Prod.fst) : isName name = true := by
  rw [StateTable.names_eventedPairs] at hname
  rcases List.mem_map.mp hname with ⟨declared, hdeclared, rfl⟩
  exact hnames declared (List.mem_filter.mp hdeclared).1

theorem decode_fullDocument {table : StateTable} (reporter : Reporter)
    (hnames : forall declared, declared ∈ table.declared -> isName declared.name = true) :
    Document.decode (reporter.fullDocument table) = .ok table.eventedPairs := by
  apply Document.decode_encode
  intro pair hpair
  exact isName_of_mem_eventedPairs hnames (List.mem_map.mpr ⟨pair, hpair, rfl⟩)

/-- A board that is reached from a table without reporters still has its variables. -/
theorem Reaches.declared_eq {declared : List Variable} {board : Board}
    (hreach : Reaches (ofVariables declared) board) : board.table.declared = declared := by
  rw [hreach.declared]
  exact (List.map_map ..).trans (List.map_id declared)

/-- From the moment when it is attached, a reporter keeps its place, and what waits is current. -/
theorem Reaches.waits {board reached : Board} {space : String} {recipient : Recipient}
    (hreach : Reaches (board.attach space recipient) reached) :
    board.reporters.length < reached.reporters.length ∧
      (reached.reporter board.reporters.length).Waits reached.table := by
  apply hreach.keeps_reporter (P := fun table reporter => reporter.Waits table)
    (fun _ _ _ _ value hslot => Reporter.waits_noticed value hslot)
    (fun _ _ => Reporter.waits_open)
    (fun table reporter _ => Reporter.waits_committed table reporter)
  · rw [Board.attach, List.length_append]
    exact Nat.lt_succ_self _
  · rw [reporter_attached]
    exact Reporter.waits_attached _ space recipient

/--
A reporter that was attached at any time is asked for its full document at any
later time.  Overwritten with the documents that it hands over from then on, and
with the entries that wait, the pairs of this document are the evented pairs of
the table.
-/
theorem subscriber_holds_evented_values {declared : List Variable} {board earlier later : Board}
    {space : String} {recipient : Recipient} {place : Nat}
    (hdistinct : (declared.map Variable.name).Nodup)
    (hnames : forall v, v ∈ declared -> isName v.name = true)
    (hboard : Reaches (ofVariables declared) board)
    (hplace : place = board.reporters.length)
    (hearlier : Reaches (board.attach space recipient) earlier)
    (hlater : Reaches earlier later) :
    exists (initial : List (String × String)) (updates : List (List (String × String))),
      Document.decode ((earlier.reporter place).fullDocument earlier.table) = .ok initial ∧
      (earlier.reporter place).sent <+: (later.reporter place).sent ∧
      ((later.reporter place).sent.drop (earlier.reporter place).sent.length).mapM
        Document.decode = .ok updates ∧
      overwriteAll initial
        (updates.flatten ++ (later.reporter place).pending.map Pending.pair) =
          later.table.eventedPairs ∧
      ((later.reporter place).isOpen = false ->
        overwriteAll initial updates.flatten = later.table.eventedPairs) ∧
      (forall slot, slot ∈ later.table.slots ->
        later.table.eventedPairs.lookup slot.declared.name =
          if slot.declared.evented then some slot.value else none) := by
  have hdeclaredEarlier : earlier.table.declared = declared :=
    hearlier.declared.trans hboard.declared_eq
  have hwaitsEarlier : place < earlier.reporters.length ∧
      (earlier.reporter place).Waits earlier.table := by
    rw [hplace]
    exact hearlier.waits
  have hstart := follows_here (hdeclaredEarlier ▸ hdistinct) hwaitsEarlier.2
  have hfollows := (hlater.keeps_reporter
    (P := Follows earlier.table.eventedPairs (earlier.reporter place).sent)
    (fun _ _ _ _ value hslot => follows_noticed value hslot)
    (fun _ _ => follows_open) (fun _ _ => follows_committed) hwaitsEarlier.1 hstart).2
  rcases hfollows.documents with ⟨updates, hsent, hupdates, hheld⟩
  refine ⟨earlier.table.eventedPairs, updates, ?_, ?_, ?_, hheld, ?_, ?_⟩
  · exact decode_fullDocument _ (hdeclaredEarlier ▸ hnames)
  · rw [hsent]
    exact List.prefix_append _ _
  · rw [hsent, List.drop_left]
    apply decode_encode_all
    intro pair hpair
    exact isName_of_mem_eventedPairs (hdeclaredEarlier ▸ hnames) (hupdates pair hpair)
  · intro hclosed
    rw [hfollows.waits.closed hclosed, List.map_nil, List.append_nil] at hheld
    exact hheld
  · intro slot hslot
    exact StateTable.lookup_eventedPairs hfollows.distinct hslot

/--
The second of two reporters, asked while its transaction is open.  Later both
have a transaction open at once, and a body commits its own and fails.
-/
theorem subscriber_holds_evented_values_overlapping :
    let board := (ofVariables
        [.subscribed "Volume" "50", .silent "Clock" "0", .subscribed "Mute" "0"]).run
      [.set 0 "40", .attach "" .function]
    let earlier := (board.attach "" .function).run [.start 1, .set 2 "1"]
    let later := earlier.run
      [.start 0, .set 0 "30", .commit 1, .set 1 "9",
        .transaction 1 ⟨[(0, "20")], true, some ""⟩, .start 1, .set 2 "0", .set 7 "0"]
    exists (initial : List (String × String)) (updates : List (List (String × String))),
      Document.decode ((earlier.reporter 1).fullDocument earlier.table) = .ok initial ∧
      (earlier.reporter 1).sent <+: (later.reporter 1).sent ∧
      ((later.reporter 1).sent.drop (earlier.reporter 1).sent.length).mapM
        Document.decode = .ok updates ∧
      overwriteAll initial
        (updates.flatten ++ (later.reporter 1).pending.map Pending.pair) =
          later.table.eventedPairs := by
  intro board earlier later
  have hboard : Reaches (ofVariables
      [.subscribed "Volume" "50", .silent "Clock" "0", .subscribed "Mute" "0"]) board :=
    reaches_run _ (Reaches.here _)
  have hearlier : Reaches (board.attach "" .function) earlier :=
    reaches_run _ (Reaches.here _)
  have hlater : Reaches earlier later := reaches_run _ (Reaches.here _)
  rcases subscriber_holds_evented_values (by decide) (by decide) hboard rfl hearlier hlater with
    ⟨initial, updates, hinitial, hprefix, hupdates, hheld, _⟩
  exact ⟨initial, updates, hinitial, hprefix, hupdates, hheld⟩

end Board
end UpnpAv
