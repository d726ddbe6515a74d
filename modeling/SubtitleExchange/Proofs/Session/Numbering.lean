import SubtitleExchange.Proofs.Pieces
import SubtitleExchange.Session.Request

/-!
# The numbers of a session

What a unit shows depends on the unit alone. A session adds the numbers of the rectangles, which go
on where they stopped, and keeps nothing else from one request to the next.
-/

namespace SubtitleExchange

def Rectangle.later (count : Nat) (rectangle : Rectangle) : Rectangle :=
  { rectangle with order := rectangle.order + count }

namespace Session

/-!
# Numbered cues

Rectangles are cues in markup with numbers in a row.
-/

def numbered (first : Nat) : List Cue → List Rectangle
  | [] => []
  | cue :: rest => ⟨cue.markup, first, cue⟩ :: numbered (first + 1) rest

theorem numbered_append (first : Nat) (front rest : List Cue) :
    numbered first (front ++ rest) =
      numbered first front ++ numbered (first + front.length) rest := by
  induction front generalizing first with
  | nil =>
      rfl
  | cons cue others ih =>
      rw [List.cons_append, numbered, numbered, ih, List.length_cons, Nat.add_right_comm,
        Nat.add_assoc, List.cons_append]

theorem map_order_numbered (first : Nat) (cues : List Cue) :
    (numbered first cues).map Rectangle.order = List.range' first cues.length := by
  induction cues generalizing first with
  | nil =>
      rfl
  | cons cue rest ih =>
      rw [numbered, List.map_cons, ih, List.length_cons, List.range'_succ]

/-- What does not look at the numbers of rectangles is told by their cues. -/
theorem map_numbered {α : Type} (f : Cue → String → α) (first : Nat) (cues : List Cue) :
    (numbered first cues).map (fun rectangle => f rectangle.cue rectangle.text) =
      cues.map fun cue => f cue cue.markup := by
  induction cues generalizing first with
  | nil =>
      rfl
  | cons cue rest ih =>
      rw [numbered, List.map_cons, List.map_cons, ih]

theorem map_cue_numbered (first : Nat) (cues : List Cue) :
    (numbered first cues).map Rectangle.cue = cues :=
  (map_numbered (fun cue _ => cue) first cues).trans (List.map_id cues)

theorem of_mem_numbered {first : Nat} {cues : List Cue} {rectangle : Rectangle}
    (h : rectangle ∈ numbered first cues) :
    rectangle.cue ∈ cues ∧ rectangle.text = rectangle.cue.markup := by
  induction cues generalizing first with
  | nil =>
      cases h
  | cons cue rest ih =>
      rw [numbered] at h
      rcases List.mem_cons.mp h with rfl | hrest
      · exact ⟨List.mem_cons_self, rfl⟩
      · exact ⟨List.mem_cons_of_mem cue (ih hrest).1, (ih hrest).2⟩

theorem length_numbered (first : Nat) (cues : List Cue) :
    (numbered first cues).length = cues.length := by
  have horders := congrArg List.length (map_order_numbered first cues)
  rwa [List.length_map, List.length_range'] at horders

theorem isEmpty_numbered (first : Nat) (cues : List Cue) :
    (numbered first cues).isEmpty = cues.isEmpty := by
  cases cues with
  | nil =>
      rfl
  | cons cue rest =>
      rfl

/-!
# One unit

The cues of a unit are those of its complete blocks. A session numbers them in the order of the
blocks and remembers how many there were.
-/

/-- The session after some more rectangles. -/
def advanced (session : Session) (count : Nat) : Session :=
  { session with produced := session.produced + count }

theorem advanced_advanced (session : Session) (m n : Nat) :
    (session.advanced m).advanced n = session.advanced (m + n) := by
  simp only [advanced, Nat.add_assoc]

/-- What a block shows for `duration` from `start` on. -/
def cueOfBlock? (start duration : Int64) (data : Octets Layout.blockLength) : Option Cue :=
  (Block.ofOctets data).cue? start (start + duration)

def cuesOf (start duration : Int64) (bytes : List UInt8) : List Cue :=
  (Octets.pieces Layout.blockLength bytes).filterMap (cueOfBlock? start duration)

theorem decodeBlock_eq (session : Session) (start duration : Int64)
    (data : Octets Layout.blockLength) :
    session.decodeBlock start duration data =
      match cueOfBlock? start duration data with
      | none => ⟨none, [.blockGiven data, .blockSkipped], session⟩
      | some cue =>
          ⟨some ⟨cue.markup, session.produced, cue⟩,
            [.blockGiven data, .cueDecoded session.produced cue.markup], session.advanced 1⟩ := by
  rw [decodeBlock, Block.ofBytes_octets]
  rfl

theorem decodeBlocks_eq (session : Session) (start duration : Int64)
    (blocks : List (Octets Layout.blockLength)) :
    let cues := blocks.filterMap (cueOfBlock? start duration)
    (session.decodeBlocks start duration blocks).value = numbered session.produced cues ∧
      (session.decodeBlocks start duration blocks).session = session.advanced cues.length := by
  induction blocks generalizing session with
  | nil =>
      exact ⟨rfl, rfl⟩
  | cons data rest ih =>
      rw [decodeBlocks, decodeBlock_eq, List.filterMap_cons]
      cases hcue : cueOfBlock? start duration data with
      | none =>
          exact ih session
      | some cue =>
          obtain ⟨hvalue, hsession⟩ := ih (session.advanced 1)
          constructor
          · exact congrArg (List.cons _) hvalue
          · rw [List.length_cons, Nat.add_comm, ← advanced_advanced]
            exact hsession

/-- What a unit gives that shows these cues. -/
def subtitleOf (displayTime : Int64) (first : Nat) (cues : List Cue) : Option Subtitle :=
  if cues.isEmpty then none else some ⟨displayTime, numbered first cues⟩

theorem value_decode (session : Session) (bytes : List UInt8) (start duration : Int64) :
    (session.decode bytes start duration).value =
      subtitleOf (session.displayTime duration) session.produced (cuesOf start duration bytes) := by
  have hblocks := session.decodeBlocks_eq start duration (Octets.pieces Layout.blockLength bytes)
  rw [subtitleOf, ← isEmpty_numbered session.produced, cuesOf, ← hblocks.1]
  rfl

theorem session_decode (session : Session) (bytes : List UInt8) (start duration : Int64) :
    (session.decode bytes start duration).session =
      session.advanced (cuesOf start duration bytes).length :=
  (session.decodeBlocks_eq start duration (Octets.pieces Layout.blockLength bytes)).2

/-- The lines of a cue are those of the text field of a block, and one of them can be seen. -/
theorem of_mem_cuesOf {start duration : Int64} {bytes : List UInt8} {cue : Cue}
    (h : cue ∈ cuesOf start duration bytes) :
    (∃ field, cue.lines = Field.lines field) ∧ Line.hasVisible cue.lines = true := by
  obtain ⟨data, _, hcue⟩ := List.mem_filterMap.mp h
  rw [cueOfBlock?, Block.cue?, Cue.assemble?] at hcue
  split at hcue
  · rename_i hvisible
    cases hcue
    exact ⟨⟨_, rfl⟩, hvisible⟩
  · cases hcue

/-!
# One request

Only requests that decode a unit show cues.
-/

def Request.cues : Request → List Cue
  | .decode bytes start duration => cuesOf start duration bytes
  | .packet p => cuesOf p.start p.duration p.data.bytes
  | .header => []
  | .state => []

theorem of_mem_cues {request : Request} {cue : Cue} (h : cue ∈ request.cues) :
    (∃ field, cue.lines = Field.lines field) ∧ Line.hasVisible cue.lines = true := by
  cases request with
  | decode bytes start duration =>
      exact of_mem_cuesOf h
  | packet packet =>
      exact of_mem_cuesOf h
  | header =>
      cases h
  | state =>
      cases h

def Response.rectangles : Response → List Rectangle
  | .subtitle (some shown) => shown.rectangles
  | _ => []

/-- The rectangles of all responses, in order. -/
def rectanglesOf (responses : List Response) : List Rectangle :=
  responses.flatMap Response.rectangles

theorem rectangles_subtitleOf (displayTime : Int64) (first : Nat) (cues : List Cue) :
    (Response.subtitle (subtitleOf displayTime first cues)).rectangles = numbered first cues := by
  cases cues with
  | nil =>
      rfl
  | cons cue rest =>
      rfl

theorem rectangles_answer (session : Session) (request : Request) :
    (session.answer request).value.rectangles = numbered session.produced request.cues := by
  cases request with
  | decode bytes start duration =>
      rw [answer, value_decode]
      exact rectangles_subtitleOf _ _ _
  | packet packet =>
      rw [answer, decodePacket, value_decode]
      exact rectangles_subtitleOf _ _ _
  | header =>
      rfl
  | state =>
      rfl

theorem session_answer (session : Session) (request : Request) :
    (session.answer request).session = session.advanced request.cues.length := by
  cases request with
  | decode bytes start duration =>
      exact session.session_decode bytes start duration
  | packet packet =>
      exact session.session_decode packet.data.bytes packet.start packet.duration
  | header =>
      rfl
  | state =>
      rfl

/-!
# Many requests

The numbers of a run go on from request to request.
-/

theorem rectangles_run (session : Session) (requests : List Request) :
    rectanglesOf (session.run requests).value =
      numbered session.produced (requests.flatMap Request.cues) := by
  induction requests generalizing session with
  | nil =>
      rfl
  | cons request rest ih =>
      have hrest := ih (session.answer request).session
      rw [session_answer] at hrest
      rw [run, rectanglesOf, List.flatMap_cons, List.flatMap_cons, numbered_append,
        rectangles_answer, session_answer]
      exact congrArg (List.append _) hrest

theorem session_run (session : Session) (requests : List Request) :
    (session.run requests).session =
      session.advanced (requests.flatMap Request.cues).length := by
  induction requests generalizing session with
  | nil =>
      rfl
  | cons request rest ih =>
      rw [run, List.flatMap_cons, List.length_append, ← advanced_advanced, ← session_answer]
      exact ih (session.answer request).session

/-!
# Room for the numbers

Every rectangle takes a whole block. So the counter stays within 64 bits as long as the blocks that
are given can be counted in them.
-/

/-- The bytes that a request gives to be decoded. -/
def Request.bytes : Request → List UInt8
  | .decode bytes _ _ => bytes
  | .packet p => p.data.bytes
  | .header => []
  | .state => []

/-- The whole blocks in all requests. -/
def blocksGiven : List Request → Nat
  | [] => 0
  | request :: rest => request.bytes.length / Layout.blockLength + blocksGiven rest

theorem length_cuesOf_le (start duration : Int64) (bytes : List UInt8) :
    (cuesOf start duration bytes).length ≤ bytes.length / Layout.blockLength := by
  rw [← Octets.length_pieces (by decide), cuesOf]
  exact List.length_filterMap_le _ _

theorem length_cues_le (request : Request) :
    request.cues.length ≤ request.bytes.length / Layout.blockLength := by
  cases request with
  | decode bytes start duration =>
      exact length_cuesOf_le start duration bytes
  | packet packet =>
      exact length_cuesOf_le packet.start packet.duration packet.data.bytes
  | header =>
      exact Nat.zero_le _
  | state =>
      exact Nat.zero_le _

theorem length_flatMap_cues_le (requests : List Request) :
    (requests.flatMap Request.cues).length ≤ blocksGiven requests := by
  induction requests with
  | nil =>
      exact Nat.le_refl 0
  | cons request rest ih =>
      rw [List.flatMap_cons, List.length_append, blocksGiven]
      exact Nat.add_le_add (length_cues_le request) ih

theorem produced_run_le (session : Session) (requests : List Request) :
    (session.run requests).session.produced ≤ session.produced + blocksGiven requests := by
  rw [session_run]
  exact Nat.add_le_add_left (length_flatMap_cues_le requests) session.produced

theorem order_lt_produced_run {session : Session} {requests : List Request} {rectangle : Rectangle}
    (h : rectangle ∈ rectanglesOf (session.run requests).value) :
    rectangle.order < (session.run requests).session.produced := by
  rw [rectangles_run] at h
  have horder : rectangle.order ∈ _ := List.mem_map_of_mem h
  rw [map_order_numbered, List.mem_range'_1] at horder
  rw [session_run]
  exact horder.2

/-- The counter of a session and all its numbers are the same as words of 64 bits. -/
theorem toNat_numbers_run {settings : Settings} {requests : List Request}
    (h : blocksGiven requests < UInt64.size) :
    let run := (start settings).session.run requests
    (UInt64.ofNat run.session.produced).toNat = run.session.produced ∧
      ∀ rectangle ∈ rectanglesOf run.value,
        (UInt64.ofNat rectangle.order).toNat = rectangle.order := by
  intro run
  have hstart : (start settings).session.produced = 0 := by
    rw [start]
    split <;> rfl
  have hle : run.session.produced ≤ _ := produced_run_le (start settings).session requests
  rw [hstart, Nat.zero_add] at hle
  have hproduced : run.session.produced < UInt64.size := Nat.lt_of_le_of_lt hle h
  refine ⟨UInt64.toNat_ofNat_of_lt' hproduced, ?_⟩
  intro rectangle hrectangle
  exact UInt64.toNat_ofNat_of_lt' (Nat.lt_trans (order_lt_produced_run hrectangle) hproduced)

/-!
# A session among others

A session that has produced rectangles answers like the one it was, with later numbers.
-/

/-- The same response with every number larger by `count`. -/
def Response.later (count : Nat) : Response → Response
  | .subtitle (some shown) =>
      .subtitle (some { shown with rectangles := shown.rectangles.map (Rectangle.later count) })
  | response => response

theorem numbered_add (first count : Nat) (cues : List Cue) :
    numbered (first + count) cues = (numbered first cues).map (Rectangle.later count) := by
  induction cues generalizing first with
  | nil =>
      rfl
  | cons cue rest ih =>
      rw [numbered, numbered, List.map_cons, ← ih, Nat.add_right_comm]
      rfl

theorem subtitleOf_add (displayTime : Int64) (first count : Nat) (cues : List Cue) :
    Response.subtitle (subtitleOf displayTime (first + count) cues) =
      (Response.subtitle (subtitleOf displayTime first cues)).later count := by
  cases cues with
  | nil =>
      rfl
  | cons cue rest =>
      simp only [subtitleOf, numbered_add]
      rfl

theorem answer_advanced (session : Session) (count : Nat) (request : Request) :
    ((session.advanced count).answer request).value =
      (session.answer request).value.later count := by
  cases request with
  | decode bytes start duration =>
      simp only [answer, value_decode]
      exact subtitleOf_add _ _ _ _
  | packet packet =>
      simp only [answer, decodePacket, value_decode]
      exact subtitleOf_add _ _ _ _
  | header =>
      rfl
  | state =>
      rfl

/-- At every place of a run stands what the session would answer there at once, with numbers that
are later by the rectangles before that place. -/
theorem getElem?_run_advanced (session : Session) (count : Nat) (requests : List Request)
    (i : Nat) :
    ((session.advanced count).run requests).value[i]? =
      (requests[i]?).map fun request =>
        (session.answer request).value.later (count +
          (rectanglesOf (((session.advanced count).run requests).value.take i)).length) := by
  induction requests generalizing count i with
  | nil =>
      rfl
  | cons request rest ih =>
      let first := ((session.advanced count).answer request).value
      have hfirst : first = (session.answer request).value.later count :=
        session.answer_advanced count request
      have hlength : first.rectangles.length = request.cues.length := by
        rw [rectangles_answer, length_numbered]
      have hnext : ((session.advanced count).answer request).session =
          session.advanced (count + first.rectangles.length) := by
        rw [session_answer, advanced_advanced, hlength]
      rw [run, hnext]
      cases i with
      | zero =>
          exact congrArg some hfirst
      | succ i =>
          rw [List.getElem?_cons_succ, List.getElem?_cons_succ, ih, List.take_succ_cons,
            rectanglesOf, rectanglesOf, List.flatMap_cons, List.length_append, Nat.add_assoc]

/-!
# A whole session

Settings that cannot be used are replaced when a session starts, so its time base and its picture
are never degenerate.
-/

theorem resolveTimeBase_ne_zero (settings : Settings) :
    (resolveTimeBase settings).num ≠ 0 ∧ (resolveTimeBase settings).den ≠ 0 := by
  rw [resolveTimeBase]
  cases settings.timeBase with
  | none =>
      decide
  | some timeBase =>
      dsimp only
      split
      · rename_i hvalid
        simpa [TimeBase.isValid] using hvalid
      · decide

def resolvePicture (settings : Settings) : PictureSize :=
  (resolvePicture? settings).getD PictureSize.standard

theorem session_start (settings : Settings) :
    (start settings).session = ⟨resolveTimeBase settings, resolvePicture settings, 0⟩ := by
  rw [start, resolvePicture]
  cases resolvePicture? settings with
  | none =>
      rfl
  | some picture =>
      rfl

end Session
end SubtitleExchange
