import Rulefold.Proofs.Commands
import Rulefold.Proofs.Folding

/-!
# What reaches the sink

The reports of a pass go to a sink, and the pass does not depend on what becomes of them. A sink
with room for a number of bytes receives as many of the bytes of all reports, one after another,
even if its room ends in the middle of a report; and a report is told to be lost exactly when some
of it is.
-/

namespace Rulefold

namespace Buffer

variable {written : List UInt8}

theorem writeAll_unlimited (bytes : List UInt8) :
    sink.writeAll ⟨written, none⟩ bytes = (none, ⟨written ++ bytes, none⟩) := by
  cases bytes with
  | nil => simp [Sink.writeAll]
  | cons byte rest => simp [Sink.writeAll, sink]

theorem writeAll_full {bytes : List UInt8} (some_bytes : bytes ≠ []) :
    sink.writeAll ⟨written, some 0⟩ bytes = (some closed, ⟨written, some 0⟩) := by
  cases bytes with
  | nil => exact absurd rfl some_bytes
  | cons byte rest => simp [Sink.writeAll, sink]

theorem write_limited (room : Nat) (byte : UInt8) (rest : List UInt8) :
    sink.write ⟨written, some (room + 1)⟩ (byte :: rest) =
      (.ok ((rest.take room).length + 1),
        ⟨written ++ byte :: rest.take room, some (room - (rest.take room).length)⟩) := by
  simp [sink]

/-- A buffer is filled up to its room, and fails if that is not enough. -/
theorem writeAll_limited (room : Nat) (bytes : List UInt8) :
    sink.writeAll ⟨written, some room⟩ bytes =
      (if room < bytes.length then some closed else none,
        ⟨written ++ bytes.take room, some (room - bytes.length)⟩) := by
  cases bytes with
  | nil => simp [Sink.writeAll]
  | cons byte rest =>
      cases room with
      | zero => simp [writeAll_full]
      | succ room =>
          rw [Sink.writeAll, write_limited]
          by_cases fits : rest.length ≤ room
          · simp [List.take_of_length_le fits, Sink.writeAll_nil, Nat.not_lt.mpr fits]
          · have short : room < rest.length := Nat.lt_of_not_le fits
            have more : rest.drop room ≠ [] := by simpa using short
            have noRoom : room - rest.length = 0 := by omega
            simp [List.length_take, Nat.min_eq_left short.le, writeAll_full more, short, noRoom]

end Buffer

namespace Sink

variable {σ : Type} {sink : Sink σ} {view : σ → Buffer}

/-- A sink takes bytes as a buffer does, whatever it says when it fails. -/
structure ActsAsBuffer (sink : Sink σ) (view : σ → Buffer) : Prop where
  taken : ∀ state bytes,
    (sink.write state bytes).1.toOption = (Buffer.sink.write (view state) bytes).1.toOption
  view_write : ∀ state bytes,
    view (sink.write state bytes).2 = (Buffer.sink.write (view state) bytes).2

theorem ActsAsBuffer.write_cases (acts : sink.ActsAsBuffer view) (state : σ)
    (bytes : List UInt8) : ∃ next,
      (∃ failure other, sink.write state bytes = (.error failure, next) ∧
        Buffer.sink.write (view state) bytes = (.error other, view next)) ∨
      ∃ count, sink.write state bytes = (.ok count, next) ∧
        Buffer.sink.write (view state) bytes = (.ok count, view next) := by
  have taken := acts.taken state bytes
  have viewed := acts.view_write state bytes
  rcases here : sink.write state bytes with ⟨answer, next⟩
  rcases there : Buffer.sink.write (view state) bytes with ⟨other, buffer⟩
  simp only [here, there] at taken viewed
  refine ⟨next, ?_⟩
  cases answer <;> cases other <;> simp_all [Except.toOption]

section WriteAll

variable {state next : σ} {byte : UInt8} {rest : List UInt8}

theorem writeAll_of_error {failure : String}
    (fails : sink.write state (byte :: rest) = (.error failure, next)) :
    sink.writeAll state (byte :: rest) = (some failure, next) := by
  simp only [writeAll, fails]

theorem writeAll_of_zero (stalls : sink.write state (byte :: rest) = (.ok 0, next)) :
    sink.writeAll state (byte :: rest) = (some stalled, next) := by
  simp only [writeAll, stalls]

theorem writeAll_of_succ {count : Nat}
    (takes : sink.write state (byte :: rest) = (.ok (count + 1), next)) :
    sink.writeAll state (byte :: rest) = sink.writeAll next (rest.drop count) := by
  rw [writeAll, takes]

end WriteAll

theorem ActsAsBuffer.writeAll (acts : sink.ActsAsBuffer view) (state : σ) (bytes : List UInt8) :
    (sink.writeAll state bytes).1.isSome = (Buffer.sink.writeAll (view state) bytes).1.isSome ∧
      view (sink.writeAll state bytes).2 = (Buffer.sink.writeAll (view state) bytes).2 := by
  match bytes with
  | [] => simp [writeAll_nil]
  | byte :: rest =>
      rcases acts.write_cases state (byte :: rest) with
        ⟨next, ⟨failure, other, here, there⟩ | ⟨count, here, there⟩⟩
      · rw [writeAll_of_error here, writeAll_of_error there]
        exact ⟨rfl, rfl⟩
      · cases count with
        | zero =>
            rw [writeAll_of_zero here, writeAll_of_zero there]
            exact ⟨rfl, rfl⟩
        | succ count =>
            rw [writeAll_of_succ here, writeAll_of_succ there]
            exact acts.writeAll next (rest.drop count)
termination_by bytes.length
decreasing_by simp only [List.length_drop, List.length_cons]; omega

end Sink

/-- The chain whose report did not get through. -/
def Diagnostic.lost? : Diagnostic → Option String
  | .reportLost chain _ => some chain
  | _ => none

namespace Event

/-- The report that an event makes, behind its chain. -/
def report? : Event → Option (String × String)
  | report chain text => some (chain, text)
  | remark _ => none

/-- The chain whose report did not get through, by a remark. -/
def lost? : Event → Option String
  | report .. => none
  | remark diagnostic => diagnostic.lost?

end Event

namespace Journal

variable {σ : Type} {sink : Sink σ} {view : σ → Buffer} {state : σ}

/-- The reports of a journal, each behind its chain. -/
def reports (journal : Journal) : List (String × String) := journal.filterMap Event.report?

/-- The bytes of several reports, one after another. -/
def bytes (reports : List (String × String)) : List UInt8 :=
  reports.flatMap fun report => Text.encode report.2

/-- The chains whose reports do not get through where there is room for some of the bytes only:
there is a report, and it ends beyond the room. -/
def cutOff (room : Nat) (reports : List (String × String)) : List String :=
  reports.zipIdx.filterMap fun (report, place) =>
    if report.2 ≠ "" ∧ room < (bytes (reports.take (place + 1))).length then some report.1
    else none

/-- No remark of the journal itself says that a report was lost. -/
def Quiet (journal : Journal) : Prop := journal.filterMap Event.lost? = []

theorem length_encode_eq_zero_iff {text : String} : (Text.encode text).length = 0 ↔ text = "" := by
  rw [List.length_eq_zero_iff]
  constructor
  · intro nothing
    have decoded := Text.decode?_encode text
    rw [nothing, ← show Text.encode "" = [] from rfl, Text.decode?_encode] at decoded
    exact (Option.some_inj.mp decoded).symm
  · rintro rfl
    rfl

theorem bytes_concat (reports : List (String × String)) (chain text : String) :
    bytes (reports ++ [(chain, text)]) = bytes reports ++ Text.encode text := by
  simp [bytes]

theorem cutOff_concat (room : Nat) (reports : List (String × String)) (chain text : String) :
    cutOff room (reports ++ [(chain, text)]) = cutOff room reports ++
      if room - (bytes reports).length < (Text.encode text).length then [chain] else [] := by
  have earlier : ∀ entry ∈ reports.zipIdx,
      (reports ++ [(chain, text)]).take (entry.2 + 1) = reports.take (entry.2 + 1) := by
    intro entry member
    have inside : entry.2 < 0 + reports.length := List.snd_lt_add_of_mem_zipIdx member
    apply List.take_append_of_le_length
    omega
  -- Once the room is used up the difference is zero, and only an empty report still gets through.
  have last : (text ≠ "" ∧ room < (bytes reports).length + (Text.encode text).length) ↔
      room - (bytes reports).length < (Text.encode text).length := by
    rw [Ne, ← length_encode_eq_zero_iff]
    omega
  rw [cutOff, List.zipIdx_append, List.filterMap_append, cutOff]
  congr 1
  · apply List.filterMap_congr
    intro entry member
    simp only [earlier entry member]
  · simp only [List.zipIdx_singleton, List.filterMap_cons, List.filterMap_nil, Nat.zero_add]
    rw [List.take_of_length_le (by simp), bytes_concat, List.length_append]
    by_cases cut : room - (bytes reports).length < (Text.encode text).length
    · simp [cut, last.mpr cut]
    · simp [cut, mt last.mp cut]

theorem deliver_remark (sink : Sink σ) (state : σ) (diagnostic : Diagnostic) :
    deliver sink state [.remark diagnostic] = ([diagnostic], state) := rfl

theorem deliver_report (sink : Sink σ) (state : σ) (chain text : String) :
    deliver sink state [.report chain text] =
      ((sink.writeAll state (Text.encode text)).1.toList.map (Diagnostic.reportLost chain),
        (sink.writeAll state (Text.encode text)).2) := by
  rcases written : sink.writeAll state (Text.encode text) with ⟨failure, next⟩
  cases failure <;> simp [deliver, written]

/-- A sink with room for some bytes receives as many bytes of the reports of a journal, and the
reports that are told to be lost are those that end beyond them. -/
theorem deliver_limited (acts : sink.ActsAsBuffer view) {room : Nat}
    (fresh : view state = .empty (some room)) {journal : Journal} (quiet : journal.Quiet) :
    view (deliver sink state journal).2 =
        ⟨(bytes journal.reports).take room, some (room - (bytes journal.reports).length)⟩ ∧
      (deliver sink state journal).1.filterMap Diagnostic.lost? = cutOff room journal.reports := by
  -- From the end: the last event finds the room that all earlier reports have left.
  induction journal using List.reverseRecOn with
  | nil => simp [deliver, fresh, reports, bytes, cutOff, Buffer.empty]
  | append_singleton journal event ih =>
      rw [Quiet, List.filterMap_append, List.append_eq_nil_iff] at quiet
      rcases ih quiet.1 with ⟨viewed, lost⟩
      rw [deliver_append, List.filterMap_append, lost]
      cases event with
      | remark diagnostic =>
          have told : reports (journal ++ [.remark diagnostic]) = reports journal := by
            simp [reports, Event.report?]
          have silent : diagnostic.lost? = none := by
            simpa [Event.lost?] using quiet.2
          simp [deliver_remark, told, viewed, silent]
      | report chain text =>
          have told : reports (journal ++ [.report chain text]) =
              reports journal ++ [(chain, text)] := List.filterMap_append
          rcases acts.writeAll (deliver sink state journal).2 (Text.encode text) with
            ⟨failed, received⟩
          rw [viewed, Buffer.writeAll_limited] at failed received
          rw [deliver_report, told, bytes_concat, cutOff_concat, received, List.take_append,
            List.length_append, Nat.sub_sub]
          refine ⟨rfl, congrArg _ ?_⟩
          cases written : (sink.writeAll (deliver sink state journal).2 (Text.encode text)).1 <;>
            simp_all [Diagnostic.lost?]

/-- A buffer without a limit receives all reports. -/
theorem written_deliver_unlimited {written : List UInt8} (journal : Journal) :
    (deliver Buffer.sink ⟨written, none⟩ journal).2 = ⟨written ++ bytes journal.reports, none⟩ := by
  induction journal generalizing written with
  | nil => simp [deliver, reports, bytes]
  | cons event rest ih =>
      cases event with
      | remark diagnostic => exact ih
      | report chain text =>
          simp [deliver, Buffer.writeAll_unlimited, ih, reports, bytes, Event.report?]

end Journal

section Outcome

variable {α : Type} {first second : Config} (capacity : first.maxShapes = second.maxShapes)
  (files others : Files)

/-- What the pass leaves and counts, without its journal. -/
def Passed.outcome (passed : Passed α) : α × Summary := (passed.result, passed.summary)

theorem Passed.outcome_all (items : List (Passed α)) : (all items).outcome =
    ((items.map outcome).map Prod.fst, .sum ((items.map outcome).map Prod.snd)) := by
  rw [List.map_map, List.map_map]
  rfl

include capacity

/-- Of the configuration, only the capacity decides how a chain is folded. -/
theorem Chain.fold_eq_of_maxShapes_eq (chain : Chain) :
    (chain.fold first files).map (fun folded => (folded.chain, folded.merges)) =
      (chain.fold second others).map fun folded => (folded.chain, folded.merges) := by
  rw [fold_eq, fold_eq, capacity]
  cases Grid.ofRulesWithin second.maxShapes chain.rules with
  | none => rfl
  | some grid =>
      simp only
      cases grid.segments.mapM Segment.survivor <;> simp [Except.map]

theorem Chain.outcome_pass_eq (table : String) (chain : Chain) :
    (chain.pass first files table).outcome = (chain.pass second others table).outcome := by
  have agree := chain.fold_eq_of_maxShapes_eq capacity files others
  unfold pass
  cases chain.isOffloaded with
  | true => rfl
  | false =>
      cases here : chain.fold first files with
      | ok folded =>
          cases there : chain.fold second others with
          | ok other =>
              simp only [here, there, Except.map, Except.ok.injEq, Prod.mk.injEq] at agree
              simp [Passed.outcome, agree]
          | error failure => simp [here, there, Except.map] at agree
      | error failure =>
          cases there : chain.fold second others with
          | ok other => simp [here, there, Except.map] at agree
          | error other =>
              simp only [here, there, Except.map, Except.error.injEq] at agree
              rw [agree]

theorem Table.outcome_pass_eq (table : Table) :
    (table.pass first files).outcome = (table.pass second others).outcome := by
  have chains : (Passed.all (table.chains.map (Chain.pass first files table.name))).outcome =
      (Passed.all (table.chains.map (Chain.pass second others table.name))).outcome := by
    simp only [Passed.outcome_all, List.map_map, Function.comp_def,
      Chain.outcome_pass_eq capacity files others]
  exact congrArg (fun outcome => ({ table with chains := outcome.1 }, outcome.2)) chains

theorem Command.outcome_pass_eq (command : Command) :
    (command.pass first files).outcome = (command.pass second others).outcome := by
  rw [pass_eq, pass_eq]
  cases command.added? with
  | none => rfl
  | some table =>
      exact congrArg (fun outcome => (Command.mk .add (.table outcome.1), outcome.2))
        (table.outcome_pass_eq capacity files others)

theorem outcome_pass_eq (commands : List Command) :
    (pass first files commands).outcome = (pass second others commands).outcome := by
  simp only [pass, Passed.outcome_all, List.map_map, Function.comp_def,
    Command.outcome_pass_eq capacity files others]

end Outcome

section Told

variable (config : Config) (files : Files)

/-- What a pass tells of one kind is what it tells of the chains it works on, unless it is told of
the tables. -/
theorem filterMap_journal_pass {β : Type} (kind : Event → Option β)
    (chainwise : ∀ family table runs, kind (.remark (.tableDone family table runs)) = none)
    (commands : List Command) : (pass config files commands).journal.filterMap kind =
      (worked commands).flatMap fun entry =>
        (entry.2.pass config files entry.1).journal.filterMap kind := by
  have ofTable : ∀ table : Table, (table.pass config files).journal.filterMap kind =
      table.chains.flatMap fun chain =>
        (chain.pass config files table.name).journal.filterMap kind := by
    intro table
    simp [Table.pass, Passed.all, List.filterMap_flatMap, List.flatMap_map, chainwise]
  have ofCommand : ∀ command : Command, (command.pass config files).journal.filterMap kind =
      command.added?.toList.flatMap fun table =>
        (table.pass config files).journal.filterMap kind := by
    intro command
    rw [Command.pass_eq]
    cases command.added? with
    | none => rfl
    | some table => simp
  have ofAdded : ∀ tables : List Command, worked tables =
      tables.flatMap fun command => command.added?.toList.flatMap fun table =>
        table.chains.map fun chain => (table.name, chain) := by
    intro tables
    rw [worked, List.filterMap_eq_flatMap_toList, List.flatMap_assoc]
  simp only [pass, Passed.all, List.filterMap_flatMap, List.flatMap_map, ofCommand, ofTable,
    ofAdded, List.flatMap_assoc]

/-- The report that a pass writes on a chain; there is none on a chain that it leaves as it is. -/
def Chain.reportInPass? (chain : Chain) : Option (String × String) :=
  if chain.isOffloaded then none
  else (chain.fold config files).toOption.map fun folded =>
    (chain.name, report config files folded.merges)

/-- The reports that a pass writes, behind the chains. -/
def reportsOf (commands : List Command) : List (String × String) :=
  (worked commands).filterMap fun entry => entry.2.reportInPass? config files

theorem Grid.lost?_remarks (grid : Grid) : ∀ remark ∈ grid.remarks, remark.lost? = none := by
  intro remark member
  rw [remarks, List.mem_append, List.mem_flatMap, List.mem_map] at member
  rcases member with ⟨stretch, -, member⟩ | ⟨run, -, rfl⟩
  · unfold remarksOn at member
    split at member
    · cases member
    · split at member
      · rcases List.mem_singleton.mp member with rfl
        rfl
      · cases member
      · rcases List.mem_map.mp member with ⟨row, -, rfl⟩
        rfl
  · rfl

theorem Merge.lost?_remarks (files : Files) (merge : Merge) :
    ∀ remark ∈ merge.remarks files, remark.lost? = none := by
  intro remark member
  rcases List.mem_flatMap.mp member with ⟨rule, -, member⟩
  unfold Rule.quotationRemarks Location.recover at member
  split at member
  · cases member
  · split at member
    · cases member
    · rcases List.mem_singleton.mp member with rfl
      rfl

theorem Chain.lost?_reportRemarks (config : Config) (files : Files) (merges : List Merge) :
    ∀ remark ∈ reportRemarks config files merges, remark.lost? = none := by
  intro remark member
  unfold reportRemarks at member
  split at member
  · rcases List.mem_flatMap.mp member with ⟨merge, -, member⟩
    exact merge.lost?_remarks files remark member
  · cases member

theorem Chain.journal_fold {config : Config} {files : Files} {chain : Chain} {folded : Folded}
    (folds : chain.fold config files = .ok folded) :
    ∃ remarks : List Diagnostic, (∀ remark ∈ remarks, remark.lost? = none) ∧
      folded.journal = remarks.map .remark ++
        [.report chain.name (report config files folded.merges)] := by
  rw [fold_eq] at folds
  split at folds
  · cases folds
  · rename_i grid _
    split at folds
    · cases folds
    · cases folds
      refine ⟨_, ?_, rfl⟩
      intro remark member
      rw [List.cons_append, List.mem_cons, List.mem_append] at member
      rcases member with rfl | member | member
      · rfl
      · exact grid.lost?_remarks remark member
      · exact lost?_reportRemarks config files _ remark member

theorem Chain.reports_pass (table : String) (chain : Chain) :
    (chain.pass config files table).journal.reports =
      (chain.reportInPass? config files).toList := by
  unfold pass reportInPass?
  cases chain.isOffloaded with
  | true => rfl
  | false =>
      cases folds : chain.fold config files with
      | error failure => cases failure <;> rfl
      | ok folded =>
          rcases journal_fold folds with ⟨remarks, -, journal⟩
          simp [journal, Journal.reports, List.filterMap_map, Function.comp_def, Event.report?,
            Except.toOption]

theorem Chain.quiet_pass (table : String) (chain : Chain) :
    (chain.pass config files table).journal.Quiet := by
  unfold pass
  cases chain.isOffloaded with
  | true => rfl
  | false =>
      cases folds : chain.fold config files with
      | error failure => cases failure <;> rfl
      | ok folded =>
          rcases journal_fold folds with ⟨remarks, quiet, journal⟩
          simpa [journal, Journal.Quiet, Event.lost?, List.filterMap_map] using quiet

theorem reports_pass (commands : List Command) :
    (pass config files commands).journal.reports = reportsOf config files commands := by
  rw [Journal.reports, filterMap_journal_pass config files _ (fun _ _ _ => rfl), reportsOf,
    List.filterMap_eq_flatMap_toList]
  exact List.flatMap_congr fun entry _ => Chain.reports_pass config files entry.1 entry.2

theorem quiet_pass (commands : List Command) : (pass config files commands).journal.Quiet := by
  rw [Journal.Quiet, filterMap_journal_pass config files _ (fun _ _ _ => rfl),
    List.flatMap_eq_nil_iff]
  exact fun entry _ => Chain.quiet_pass config files entry.1 entry.2

end Told

/-- What a pass is called with, beside the sink. -/
structure Call where
  maxShapes : Nat
  files : Files
  commands : List Command

/-- The reports that an auditing pass writes. -/
def Call.reports (call : Call) : List (String × String) :=
  reportsOf ⟨call.maxShapes, true⟩ call.files call.commands

/-- Runs auditing passes one after another over one sink, and answers all diagnostics in order. -/
def passesInto {σ : Type} (sink : Sink σ) (state : σ) : List Call → List Diagnostic × σ
  | [] => ([], state)
  | call :: rest =>
    let delivered := passInto sink state ⟨call.maxShapes, true⟩ call.files call.commands
    let (diagnostics, state) := passesInto sink delivered.state rest
    (delivered.diagnostics ++ diagnostics, state)

section Passes

variable {σ : Type}

/-- What happens in auditing passes one after another. -/
def journalOf (calls : List Call) : Journal :=
  calls.flatMap fun call => (pass ⟨call.maxShapes, true⟩ call.files call.commands).journal

theorem passesInto_eq_deliver (sink : Sink σ) (state : σ) (calls : List Call) :
    passesInto sink state calls = (journalOf calls).deliver sink state := by
  induction calls generalizing state with
  | nil => rfl
  | cons call rest ih =>
      rw [journalOf, List.flatMap_cons, Journal.deliver_append, passesInto, passInto_eq, ih]
      rfl

theorem reports_journalOf (calls : List Call) :
    (journalOf calls).reports = calls.flatMap Call.reports := by
  rw [journalOf, Journal.reports, List.filterMap_flatMap]
  exact List.flatMap_congr fun call _ => reports_pass _ _ _

theorem quiet_journalOf (calls : List Call) : (journalOf calls).Quiet := by
  rw [journalOf, Journal.Quiet, List.filterMap_flatMap, List.flatMap_eq_nil_iff]
  exact fun call _ => quiet_pass _ _ _

/-- Neither the sink nor the audit influences what a pass does. A sink with room for a number of
bytes receives exactly that much of what a buffer without a limit receives, which is the reports of
all passes, one after another. Told to be lost are exactly the reports that are not empty and end
beyond the room. -/
theorem passesInto_limited {sink : Sink σ} {view : σ → Buffer} (acts : sink.ActsAsBuffer view)
    {state : σ} {room : Nat} (fresh : view state = .empty (some room)) (calls : List Call) :
    (∀ (τ υ : Type) (first : Sink τ) (second : Sink υ) (start : τ) (other : υ) (maxShapes : Nat)
        (audit silent : Bool) (files : Files) (commands : List Command),
      (passInto first start ⟨maxShapes, audit⟩ files commands).result =
          (passInto second other ⟨maxShapes, silent⟩ files commands).result ∧
        (passInto first start ⟨maxShapes, audit⟩ files commands).summary =
          (passInto second other ⟨maxShapes, silent⟩ files commands).summary) ∧
      (passesInto Buffer.sink (.empty none) calls).2.written =
        Journal.bytes (calls.flatMap Call.reports) ∧
      (view (passesInto sink state calls).2).written =
        (Journal.bytes (calls.flatMap Call.reports)).take room ∧
      (passesInto sink state calls).1.filterMap Diagnostic.lost? =
        Journal.cutOff room (calls.flatMap Call.reports) := by
  refine ⟨?_, ?_, ?_⟩
  · intro τ υ first second start other maxShapes audit silent files commands
    have capacity : (Config.mk maxShapes audit).maxShapes =
        (Config.mk maxShapes silent).maxShapes := rfl
    rw [result_passInto, result_passInto, summary_passInto, summary_passInto]
    exact Prod.mk.inj (outcome_pass_eq capacity files files commands)
  · rw [passesInto_eq_deliver, Buffer.empty, Journal.written_deliver_unlimited, reports_journalOf,
      List.nil_append]
  · rw [passesInto_eq_deliver, ← reports_journalOf]
    rcases Journal.deliver_limited acts fresh (quiet_journalOf calls) with ⟨viewed, lost⟩
    exact ⟨congrArg Buffer.written viewed, lost⟩

/-- A pass over two chains with a fold each, and over one without. -/
def Call.twoFolds : Call where
  maxShapes := 8
  files := .ofList []
  commands := [{
    action := .add
    subject := .table {
      family := .ip
      name := "filter"
      chains := [
        { Chain.ofStatements [[.number (.route .mtu) 1], [.number (.route .mtu) 2]] with
          name := "input" },
        { Chain.ofStatements [[.number (.route .mtu) 3], [.number (.route .mtu) 4]] with
          name := "output" },
        { Chain.ofStatements [[.number (.route .mtu) 5]] with name := "idle" }] } }]

/-- The room ends in the middle of the second report. -/
theorem passesInto_limited_of_forty : Buffer.sink.ActsAsBuffer id ∧
    id (Buffer.empty (some 40)) = .empty (some 40) ∧
      (passesInto Buffer.sink (.empty (some 40)) [.twoFolds]).2.written =
        (Journal.bytes ([Call.twoFolds].flatMap Call.reports)).take 40 ∧
      (Journal.bytes ([Call.twoFolds].flatMap Call.reports)).length = 64 ∧
      (passesInto Buffer.sink (.empty (some 40)) [.twoFolds]).1.filterMap Diagnostic.lost? =
        ["output"] := by
  have acts : Buffer.sink.ActsAsBuffer id := ⟨fun _ _ => rfl, fun _ _ => rfl⟩
  have fresh : id (Buffer.empty (some 40)) = .empty (some 40) := rfl
  rcases passesInto_limited acts fresh [.twoFolds] with ⟨-, -, received, lost⟩
  refine ⟨acts, fresh, received, by decide +kernel, ?_⟩
  rw [lost]
  decide +kernel

end Passes

end Rulefold
