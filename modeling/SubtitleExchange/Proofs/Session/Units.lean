import SubtitleExchange.Proofs.Pieces
import SubtitleExchange.Proofs.Session.Numbering

/-!
# Units and their parts

Blocks are decoded one by one, so it makes no difference whether they come in one unit or in
several. Only an incomplete block at the end of a unit is lost, and it has no effect.
-/

namespace SubtitleExchange
namespace Session

/-- The requests that decode units one after another with the same timing. -/
def unitRequests (start duration : Int64) (units : List (List UInt8)) : List Request :=
  units.map fun unit => .decode unit start duration

/-!
# The cues of parts

A block is a unit with at most one cue. A cut between two blocks keeps the blocks whole.
-/

theorem cuesOf_bytes (start duration : Int64) (data : Octets Layout.blockLength) :
    cuesOf start duration data.bytes = (cueOfBlock? start duration data).toList := by
  rw [cuesOf, Octets.pieces_bytes (by decide), List.filterMap_cons, List.filterMap_nil]
  cases cueOfBlock? start duration data with
  | none =>
      rfl
  | some cue =>
      rfl

theorem cuesOf_flatten (start duration : Int64) (units : List (List UInt8))
    (hunits : ∀ unit ∈ units.dropLast, Layout.blockLength ∣ unit.length) :
    cuesOf start duration units.flatten =
      (unitRequests start duration units).flatMap Request.cues := by
  rw [cuesOf, Octets.pieces_flatten (by decide) units hunits, List.filterMap_flatMap, unitRequests,
    List.flatMap_map]
  rfl

theorem cuesOf_take_complete (start duration : Int64) (bytes : List UInt8) :
    cuesOf start duration (bytes.take (bytes.length - bytes.length % Layout.blockLength)) =
      cuesOf start duration bytes := by
  rw [cuesOf, Octets.pieces_take_complete (by decide)]
  rfl

/-!
# The responses of a run

Every response of a run is an answer of the session at a later number.
-/

theorem exists_answer_of_mem_run {session : Session} {requests : List Request} {response : Response}
    (h : response ∈ (session.run requests).value) :
    ∃ request ∈ requests, ∃ count, response = ((session.advanced count).answer request).value := by
  induction requests generalizing session with
  | nil =>
      cases h
  | cons request rest ih =>
      rw [run, List.mem_cons] at h
      rcases h with hfirst | hrest
      · exact ⟨request, List.mem_cons_self, 0, hfirst⟩
      · obtain ⟨other, hother, count, hanswer⟩ := ih hrest
        rw [session_answer, advanced_advanced] at hanswer
        exact ⟨other, List.mem_cons_of_mem request hother, _, hanswer⟩

theorem exists_subtitleOf_of_mem_run {session : Session} {start duration : Int64}
    {units : List (List UInt8)} {response : Response}
    (h : response ∈ (session.run (unitRequests start duration units)).value) :
    ∃ first cues, response = .subtitle (subtitleOf (session.displayTime duration) first cues) := by
  obtain ⟨request, hrequest, count, hanswer⟩ := exists_answer_of_mem_run h
  obtain ⟨unit, _, rfl⟩ := List.mem_map.mp hrequest
  rw [answer, value_decode] at hanswer
  exact ⟨_, _, hanswer⟩

theorem displayTime_of_subtitleOf {displayTime : Int64} {first : Nat} {cues : List Cue}
    {subtitle : Subtitle} (h : subtitleOf displayTime first cues = some subtitle) :
    subtitle.displayTime = displayTime := by
  cases cues with
  | nil =>
      cases h
  | cons cue rest =>
      cases h
      rfl

theorem subtitleOf_eq_none_iff (displayTime : Int64) (first : Nat) (cues : List Cue) :
    subtitleOf displayTime first cues = none ↔
      (Response.subtitle (subtitleOf displayTime first cues)).rectangles = [] := by
  cases cues with
  | nil =>
      exact ⟨fun _ => rfl, fun _ => rfl⟩
  | cons cue rest =>
      constructor
      · intro hnone
        cases hnone
      · intro hnone
        cases hnone

/-- Decoding a unit is decoding its parts in order, wherever it is cut between blocks. -/
theorem decode_flatten (session : Session) (start duration : Int64) (units : List (List UInt8))
    (hunits : ∀ unit ∈ units.dropLast, Layout.blockLength ∣ unit.length) :
    let whole := session.decode units.flatten start duration
    let parts := session.run (unitRequests start duration units)
    (Response.subtitle whole.value).rectangles = rectanglesOf parts.value ∧
      whole.session = parts.session ∧
      (∀ subtitle,
        Response.subtitle (some subtitle) ∈ Response.subtitle whole.value :: parts.value →
          subtitle.displayTime = session.displayTime duration) ∧
      (whole.value = none ↔ ∀ response ∈ parts.value, response = .subtitle none) ∧
      let complete := units.flatten.take
        (units.flatten.length - units.flatten.length % Layout.blockLength)
      (session.decode complete start duration).value = whole.value ∧
        (session.decode complete start duration).session = whole.session := by
  intro whole parts
  have hwhole : whole.value = _ := session.value_decode units.flatten start duration
  have hrectangles : (Response.subtitle whole.value).rectangles = rectanglesOf parts.value := by
    rw [hwhole, rectangles_subtitleOf, rectangles_run, cuesOf_flatten _ _ _ hunits]
  refine ⟨hrectangles, ?_, ?_, ?_, ?_⟩
  · rw [session_decode, session_run, cuesOf_flatten _ _ _ hunits]
  · intro subtitle hsubtitle
    rcases List.mem_cons.mp hsubtitle with hfirst | hpart
    · rw [hwhole, Response.subtitle.injEq] at hfirst
      exact displayTime_of_subtitleOf hfirst.symm
    · obtain ⟨first, cues, hcues⟩ := exists_subtitleOf_of_mem_run hpart
      rw [Response.subtitle.injEq] at hcues
      exact displayTime_of_subtitleOf hcues.symm
  · rw [hwhole, subtitleOf_eq_none_iff, ← hwhole, hrectangles, rectanglesOf,
      List.flatMap_eq_nil_iff]
    constructor
    · intro hnone response hresponse
      obtain ⟨first, cues, rfl⟩ := exists_subtitleOf_of_mem_run hresponse
      rw [(subtitleOf_eq_none_iff _ _ _).mpr (hnone _ hresponse)]
    · intro hnone response hresponse
      rw [hnone response hresponse]
      rfl
  · intro complete
    rw [value_decode, session_decode, session_decode, hwhole, cuesOf_take_complete]
    exact ⟨rfl, rfl⟩

def letterBlock (letter : UInt8) : List UInt8 :=
  List.replicate Layout.textOffset 0 ++ letter :: List.replicate 111 Code.terminatorByte

/-- A letter and a blank block, an empty unit, and a letter with an incomplete block behind it. -/
def cutUnits : List (List UInt8) :=
  [letterBlock 0x41 ++ letterBlock Code.terminatorByte, [], letterBlock 0x42 ++ [0x43]]

theorem decode_flatten_cutUnits :
    let session : Session := ⟨⟨1, 90000⟩, PictureSize.standard, 5⟩
    let whole := session.decode cutUnits.flatten 0 1
    let parts := session.run (unitRequests 0 1 cutUnits)
    (∀ unit ∈ cutUnits.dropLast, Layout.blockLength ∣ unit.length) ∧
      (Response.subtitle whole.value).rectangles = rectanglesOf parts.value ∧
      (rectanglesOf parts.value).map Rectangle.order = [5, 6] ∧
      whole.session = parts.session ∧ parts.session.produced = 7 ∧
      (∀ subtitle,
        Response.subtitle (some subtitle) ∈ Response.subtitle whole.value :: parts.value →
          subtitle.displayTime = session.displayTime 1) ∧
      session.displayTime 1 = 90 := by
  intro session whole parts
  have hunits : ∀ unit ∈ cutUnits.dropLast, Layout.blockLength ∣ unit.length := by
    decide +kernel
  obtain ⟨hrectangles, hsession, htime, _, _⟩ := decode_flatten session 0 1 cutUnits hunits
  refine ⟨hunits, hrectangles, ?_, hsession, ?_, htime, ?_⟩
  · decide +kernel
  · decide +kernel
  · decide +kernel

end Session
end SubtitleExchange
