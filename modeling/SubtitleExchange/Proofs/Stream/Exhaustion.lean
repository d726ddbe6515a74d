import SubtitleExchange.Proofs.Stream.Packets
import SubtitleExchange.Stream.Request

/-!
# Exhaustion

Whatever a reader is asked for, it reads on: the results of any requests are those of reading again
and again. They are packets up to the result that exhausts the reader, and only ends behind it.
-/

namespace SubtitleExchange
namespace Reader

/-!
# Reading again and again

A read either gives a packet or exhausts the reader, and an exhausted reader stays as it is.
-/

/-- The results of a number of reads. -/
def results : Nat → Reader → List (Except ReadError (Option Packet))
  | 0, _ => []
  | n + 1, reader => reader.read.result :: results n reader.read.reader

theorem after_add (m n : Nat) (reader : Reader) :
    after (m + n) reader = after n (after m reader) := by
  induction m generalizing reader with
  | zero =>
      rw [Nat.zero_add, after]
  | succ m ih =>
      rw [Nat.succ_add, after, after]
      exact ih reader.read.reader

theorem results_add (m n : Nat) (reader : Reader) :
    results (m + n) reader = results m reader ++ results n (after m reader) := by
  induction m generalizing reader with
  | zero =>
      rw [Nat.zero_add, results, after, List.nil_append]
  | succ m ih =>
      rw [Nat.succ_add, results, results, after, List.cons_append]
      exact congrArg (List.cons _) (ih reader.read.reader)

theorem after_of_exhausted {reader : Reader} (h : reader.exhausted = true) (n : Nat) :
    after n reader = reader := by
  induction n with
  | zero =>
      rfl
  | succ n ih =>
      rw [after, read_of_exhausted h]
      exact ih

theorem results_of_exhausted {reader : Reader} (h : reader.exhausted = true) (n : Nat) :
    results n reader = List.replicate n (.ok none) := by
  induction n with
  | zero =>
      rfl
  | succ n ih =>
      rw [results, read_of_exhausted h, List.replicate_succ]
      exact congrArg (List.cons _) ih

/-- A read gives a packet and leaves the reader open, or it leaves the reader exhausted. -/
theorem read_cases (reader : Reader) :
    (∃ packet, reader.read.result = .ok (some packet) ∧ reader.read.reader.exhausted = false) ∨
      ∃ closing, reader.read.result = lastResult closing ∧ reader.read.reader.exhausted = true := by
  cases hexhausted : reader.exhausted with
  | true =>
      rw [read_of_exhausted hexhausted]
      exact Or.inr ⟨none, rfl, hexhausted⟩
  | false =>
      rcases Nat.lt_or_ge reader.source.delivered.length Layout.blockLength with hlt | hge
      · exact Or.inr ⟨_, read_last hexhausted hlt⟩
      · obtain ⟨data, _, hread⟩ := read_block hexhausted hge
        rw [hread]
        exact Or.inl ⟨Packet.ofBlock data reader.rate, rfl, hexhausted⟩

/-- The results of an open reader are packets, or packets and the last result and ends behind it. -/
theorem results_of_open {reader : Reader} (h : reader.exhausted = false) (n : Nat) :
    ∃ packets : List Packet,
      ((after n reader).exhausted = false ∧
          results n reader = packets.map fun packet => .ok (some packet)) ∨
        ((after n reader).exhausted = true ∧ after n reader = after (packets.length + 1) reader ∧
          ∃ closing count, results n reader = packets.map (fun packet => .ok (some packet)) ++
            lastResult closing :: List.replicate count (.ok none)) := by
  induction n generalizing reader with
  | zero =>
      exact ⟨[], Or.inl ⟨h, rfl⟩⟩
  | succ n ih =>
      rw [after, results]
      rcases reader.read_cases with ⟨packet, hresult, hopen⟩ | ⟨closing, hresult, hexhausted⟩
      · rw [hresult]
        obtain ⟨packets, hpackets⟩ := ih hopen
        refine ⟨packet :: packets, ?_⟩
        rcases hpackets with ⟨hstill, hrest⟩ | ⟨hended, hlast, closing, count, hrest⟩
        · rw [hrest]
          exact Or.inl ⟨hstill, rfl⟩
        · rw [hrest]
          exact Or.inr ⟨hended, hlast, closing, count, rfl⟩
      · rw [hresult, after_of_exhausted hexhausted, results_of_exhausted hexhausted]
        exact ⟨[], Or.inr ⟨hexhausted, rfl, closing, n, rfl⟩⟩

/-!
# Requests

Every request reads some number of times.
-/

/-- The result that an item of the sequence stands for. -/
def resultOfItem : Option (Except ReadError Packet) → Except ReadError (Option Packet)
  | none => .ok none
  | some (.ok packet) => .ok (some packet)
  | some (.error error) => .error error

/-- The results that a response shows. Taking all items that are left meets the end behind them. -/
def Response.results : Response → List (Except ReadError (Option Packet))
  | .result r => [r]
  | .item i => [resultOfItem i]
  | .items is => is.map (fun i => resultOfItem (some i)) ++ [.ok none]
  | .info _ => []

def resultsOf (answers : List Answer) : List (Except ReadError (Option Packet)) :=
  answers.flatMap fun answer => answer.response.results

theorem resultOfItem_item (step : Step) : resultOfItem step.item = step.result := by
  rw [Step.item]
  split
  · rename_i hresult
    rw [hresult, resultOfItem]
  · rename_i hresult
    rw [hresult, resultOfItem]
  · rename_i hresult
    rw [hresult, resultOfItem]

theorem item_of_last {step : Step} {closing : Option Fault} (h : step.result = lastResult closing) :
    [step].filterMap Step.item = (closing.map fun cause => .error (.stream cause)).toList := by
  rw [List.filterMap_cons, List.filterMap_nil, Step.item, h]
  cases closing with
  | none =>
      rfl
  | some cause =>
      rfl

theorem lastReader_cons (reader : Reader) (step : Step) (rest : List Step) :
    reader.lastReader (step :: rest) = step.reader.lastReader rest := by
  rw [lastReader, lastReader, List.getLast?_cons]
  cases rest.getLast? with
  | none =>
      rfl
  | some last =>
      rfl

/-- Taking all items that are left is reading until there is an end. -/
theorem exists_results_of_steps (reader : Reader) :
    ∃ n, (Response.items (reader.steps.filterMap Step.item)).results = results n reader ∧
      reader.lastReader reader.steps = after n reader := by
  induction hsize : reader.source.remaining using Nat.strongRecOn generalizing reader with
  | ind size ih =>
      rcases reader.read_cases with ⟨packet, hresult, _⟩ | ⟨closing, hresult, hexhausted⟩
      · have htotal := remaining_of_packet hresult
        have hless : reader.read.reader.source.remaining < size := by
          simp only [Layout.blockLength] at htotal
          omega
        obtain ⟨n, hresults, hlast⟩ := ih _ hless reader.read.reader rfl
        have hitem : reader.read.item = some (.ok packet) := by
          rw [Step.item, hresult]
        refine ⟨n + 1, ?_, ?_⟩
        · rw [steps_of_packet hresult, List.filterMap_cons_some hitem, results, hresult, ← hresults]
          rfl
        · rw [steps_of_packet hresult, lastReader_cons, after]
          exact hlast
      · rw [steps_of_last hresult, item_of_last hresult]
        -- An error is an item of its own, so the end behind it takes a second read.
        cases closing with
        | none =>
            refine ⟨1, ?_, rfl⟩
            rw [results, hresult]
            rfl
        | some cause =>
            refine ⟨2, ?_, ?_⟩
            · rw [results, hresult, results_of_exhausted hexhausted]
              rfl
            · rw [after, after_of_exhausted hexhausted]
              rfl

theorem exists_results_of_answer (reader : Reader) (request : Request) :
    ∃ n, (reader.answer request).response.results = results n reader ∧
      (reader.answer request).reader = after n reader := by
  cases request with
  | read =>
      exact ⟨1, rfl, rfl⟩
  | next =>
      refine ⟨1, ?_, rfl⟩
      exact congrArg (fun result => [result]) (resultOfItem_item reader.read)
  | rest =>
      exact reader.exists_results_of_steps
  | info =>
      exact ⟨0, rfl, rfl⟩

theorem afterRun_cons (reader : Reader) (request : Request) (requests : List Request) :
    reader.afterRun (request :: requests) = (reader.answer request).reader.afterRun requests := by
  rw [afterRun, afterRun, run, List.getLast?_cons]
  cases ((reader.answer request).reader.run requests).getLast? with
  | none =>
      rfl
  | some last =>
      rfl

/-- A run reads as often as its requests together. -/
theorem exists_results_of_run (reader : Reader) (requests : List Request) :
    ∃ n, resultsOf (reader.run requests) = results n reader ∧
      reader.afterRun requests = after n reader := by
  induction requests generalizing reader with
  | nil =>
      exact ⟨0, rfl, rfl⟩
  | cons request rest ih =>
      obtain ⟨m, hresults, hreader⟩ := reader.exists_results_of_answer request
      obtain ⟨n, hrest, hlast⟩ := ih (reader.answer request).reader
      refine ⟨m + n, ?_, ?_⟩
      · rw [run, resultsOf, List.flatMap_cons, hresults, results_add, ← hreader, ← hrest]
        rfl
      · rw [afterRun_cons, after_add, ← hreader, hlast]

/-!
# Requests to an exhausted reader

What an exhausted reader answers depends on nothing but the request.
-/

def Request.answerAtEnd : Request → Response
  | .read => .result (.ok none)
  | .next => .item none
  | .rest => .items []
  | .info => .info StreamInfo.subtitles

theorem answer_of_exhausted {reader : Reader} (h : reader.exhausted = true) (request : Request) :
    reader.answer request = ⟨request.answerAtEnd, [], reader⟩ := by
  have hread := read_of_exhausted h
  cases request with
  | read =>
      rw [answer, hread]
      rfl
  | next =>
      rw [answer, hread]
      rfl
  | rest =>
      have hlast : reader.read.result = lastResult none := by
        rw [hread]
        rfl
      rw [answer, steps_of_last hlast, hread]
      rfl
  | info =>
      rfl

theorem run_of_exhausted {reader : Reader} (h : reader.exhausted = true)
    (requests : List Request) :
    reader.run requests = requests.map fun request => ⟨request.answerAtEnd, [], reader⟩ := by
  induction requests with
  | nil =>
      rfl
  | cons request rest ih =>
      rw [run, answer_of_exhausted h, List.map_cons, ih]

theorem run_append (reader : Reader) (front rest : List Request) :
    reader.run (front ++ rest) = reader.run front ++ (reader.afterRun front).run rest := by
  induction front generalizing reader with
  | nil =>
      rfl
  | cons request others ih =>
      rw [List.cons_append, run, run, afterRun_cons, List.cons_append]
      exact congrArg (List.cons _) (ih (reader.answer request).reader)

/-!
# Runs from the opening on

A reader is opened as one that is not exhausted.
-/

theorem exhausted_of_openAt {rate : FrameRate} {source : Source} {reader : Reader}
    {log : List Event} (h : openAt rate source = .ok (reader, log)) : reader.exhausted = false := by
  rw [openAt] at h
  split at h
  · cases h
    rfl
  · cases h

/-- Whatever is asked for in whatever order, a reader gives packets, at most one last result, and
ends for ever. From the last result on it neither reads nor logs, whatever its source holds. -/
theorem exhaustion_of_run {rate : FrameRate} {source : Source} {reader : Reader} {log : List Event}
    (hopen : openAt rate source = .ok (reader, log)) (requests : List Request) :
    let answers := reader.run requests
    let last := reader.afterRun requests
    (∃ n, resultsOf answers = results n reader ∧ last = after n reader) ∧
      (∃ packets : List Packet,
        (last.exhausted = false ∧
            resultsOf answers = packets.map fun packet => .ok (some packet)) ∨
          (last.exhausted = true ∧ last = after (packets.length + 1) reader ∧
            ∃ closing count, resultsOf answers = packets.map (fun packet => .ok (some packet)) ++
              lastResult closing :: List.replicate count (.ok none))) ∧
      (last.exhausted = true → ∀ later,
        reader.run (requests ++ later) =
            answers ++ later.map (fun request => ⟨request.answerAtEnd, [], last⟩) ∧
          ∀ other, { last with source := other }.run later =
            later.map fun request => ⟨request.answerAtEnd, [], { last with source := other }⟩) ∧
      ∃ item logged next, last.answer .next = ⟨.item item, logged, next⟩ ∧
        last.answer .read = ⟨.result (resultOfItem item), logged, next⟩ := by
  intro answers last
  obtain ⟨n, hresults, hlast⟩ := reader.exists_results_of_run requests
  refine ⟨⟨n, hresults, hlast⟩, ?_, ?_, ?_⟩
  · rw [show resultsOf answers = _ from hresults, show last = _ from hlast]
    exact results_of_open (exhausted_of_openAt hopen) n
  · intro hexhausted later
    constructor
    · rw [run_append, run_of_exhausted hexhausted]
    · intro other
      have hother : ({ last with source := other } : Reader).exhausted = true := hexhausted
      exact run_of_exhausted hother later
  · refine ⟨last.read.item, last.read.log, last.read.reader, rfl, ?_⟩
    rw [resultOfItem_item]
    rfl

/-- A fault between two whole blocks. -/
def dividedFeed : Source :=
  .feed [.chunk (List.replicate 128 1), .fault ⟨.timedOut, "late"⟩, .chunk (List.replicate 128 2)]
    none

theorem exhaustion_of_dividedFeed :
    let reader : Reader := ⟨dividedFeed, FrameRate.standard, false⟩
    let requests : List Request := [.next, .info, .rest, .read]
    let last := reader.afterRun requests
    openAt FrameRate.standard dividedFeed = .ok (reader, [.opened FrameRate.standard]) ∧
      (resultsOf (reader.run requests)).map Except.isOk = [true, false, true, true] ∧
      last.source = .feed [.chunk (List.replicate 128 2)] none ∧
      ∀ later, reader.run (requests ++ later) = reader.run requests ++
        later.map fun request => ⟨request.answerAtEnd, [], last⟩ := by
  intro reader requests last
  have hopen : openAt FrameRate.standard dividedFeed =
      .ok (reader, [.opened FrameRate.standard]) := rfl
  obtain ⟨_, _, hended, _⟩ := exhaustion_of_run hopen requests
  have hexhausted : last.exhausted = true := by
    decide +kernel
  refine ⟨hopen, ?_, ?_, fun later => (hended hexhausted later).1⟩
  · decide +kernel
  · decide +kernel

end Reader
end SubtitleExchange
