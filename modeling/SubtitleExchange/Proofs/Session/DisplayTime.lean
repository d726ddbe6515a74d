import SubtitleExchange.Proofs.Session.Units
import SubtitleExchange.Proofs.Time.Milliseconds

/-!
# How long subtitles are shown

The display time of a subtitle depends on the duration of its unit and on the settings of the session
only. It is the nearest count of ticks, limited to 64 bits, whatever was decoded before.
-/

namespace SubtitleExchange
namespace Session

/-!
# Time bases of sessions
-/

/-- The given time base if neither part of it is zero, a tick of one millisecond otherwise. -/
theorem resolveTimeBase_eq (settings : Settings) :
    resolveTimeBase settings =
      (settings.timeBase.filter fun timeBase =>
        timeBase.num != 0 && timeBase.den != 0).getD ⟨1, 1000⟩ := by
  rw [resolveTimeBase]
  cases settings.timeBase with
  | none =>
      rfl
  | some given =>
      have hvalid : (given.num != 0 && given.den != 0) = given.isValid := rfl
      rw [Option.filter_some, hvalid]
      dsimp only
      cases given.isValid with
      | true =>
          rfl
      | false =>
          rfl

theorem isValid_resolveTimeBase (settings : Settings) :
    (resolveTimeBase settings).isValid = true :=
  (TimeBase.isValid_iff _).mpr (resolveTimeBase_ne_zero settings)

theorem displayTime_start (settings : Settings) (duration : Int64) :
    (start settings).session.displayTime duration =
      TimeBase.milliseconds.rescale duration (resolveTimeBase settings) := by
  rw [displayTime, session_start]

/-!
# One request

Only a request that decodes a unit has a duration, and its display time is that of the session.
-/

def Request.duration? : Request → Option Int64
  | .decode _ _ duration => some duration
  | .packet p => some p.duration
  | .header => none
  | .state => none

theorem displayTime_of_answer {session : Session} {request : Request} {duration : Int64}
    {subtitle : Subtitle} (hduration : request.duration? = some duration)
    (h : (session.answer request).value = .subtitle (some subtitle)) :
    subtitle.displayTime = session.displayTime duration := by
  cases request with
  | decode bytes start length =>
      cases hduration
      rw [answer, value_decode, Response.subtitle.injEq] at h
      exact displayTime_of_subtitleOf h
  | packet packet =>
      cases hduration
      rw [answer, decodePacket, value_decode, Response.subtitle.injEq] at h
      exact displayTime_of_subtitleOf h
  | header =>
      cases hduration
  | state =>
      cases hduration

/-!
# Many requests

Later numbers leave the display time as it is.
-/

theorem exists_subtitle_of_later {response : Response} {count : Nat} {subtitle : Subtitle}
    (h : response.later count = .subtitle (some subtitle)) :
    ∃ earlier, response = .subtitle (some earlier) ∧
      earlier.displayTime = subtitle.displayTime := by
  cases response with
  | subtitle shown =>
      cases shown with
      | none =>
          cases h
      | some earlier =>
          cases h
          exact ⟨earlier, rfl, rfl⟩
  | header text =>
      cases h
  | state timeBase picture =>
      cases h

theorem displayTime_of_getElem?_run {session : Session} {requests : List Request} {i : Nat}
    {request : Request} {duration : Int64} {subtitle : Subtitle}
    (hrequest : requests[i]? = some request) (hduration : request.duration? = some duration)
    (h : (session.run requests).value[i]? = some (.subtitle (some subtitle))) :
    subtitle.displayTime = session.displayTime duration := by
  have hrun := session.getElem?_run_advanced 0 requests i
  rw [hrequest, Option.map_some] at hrun
  obtain ⟨earlier, hanswer, htime⟩ :=
    exists_subtitle_of_later (Option.some.inj (hrun.symm.trans h))
  rw [← htime]
  exact displayTime_of_answer hduration hanswer

/-- Every subtitle of a session is shown for the nearest count of ticks to its duration, limited to
64 bits, and no product on the way to it is too large for a word. -/
theorem displayTime_of_run (settings : Settings) (requests : List Request) :
    let given := settings.timeBase.filter fun timeBase => timeBase.num != 0 && timeBase.den != 0
    let base := given.getD ⟨1, 1000⟩
    ∀ (i : Nat) (request : Request) (duration : Int64) (subtitle : Subtitle),
      requests[i]? = some request → request.duration? = some duration →
      ((start settings).session.run requests).value[i]? = some (.subtitle (some subtitle)) →
      TimeBase.Fits TimeBase.milliseconds duration base ∧
        (∃ z : ℤ, IsNearest ((duration.toInt * base.den.toInt : ℚ) / (1000 * base.num.toInt)) z ∧
          subtitle.displayTime.toInt = max (-2 ^ 63) (min (2 ^ 63 - 1) z)) ∧
        (given = none → subtitle.displayTime = duration) := by
  intro given base i request duration subtitle hrequest hduration hsubtitle
  have hbase : resolveTimeBase settings = base := resolveTimeBase_eq settings
  have hvalid : base.isValid = true := by
    rw [← hbase]
    exact isValid_resolveTimeBase settings
  have htime : subtitle.displayTime = TimeBase.milliseconds.rescale duration base := by
    rw [displayTime_of_getElem?_run hrequest hduration hsubtitle, displayTime_start, hbase]
  have hfits := TimeBase.fits_milliseconds duration base
  refine ⟨hfits, ?_, ?_⟩
  · have hnearest := TimeBase.isNearest_exactCount TimeBase.isValid_milliseconds hvalid duration
    rw [TimeBase.quotient_from_milliseconds] at hnearest
    refine ⟨_, hnearest, ?_⟩
    rw [htime, TimeBase.rescale_from_milliseconds hvalid hnearest, toInt_saturate]
    rfl
  · intro hnone
    have hmilliseconds : base = TimeBase.milliseconds := by
      change given.getD ⟨1, 1000⟩ = _
      rw [hnone]
      rfl
    rw [htime, hmilliseconds, TimeBase.rescale_milliseconds_self]

/-- The longest time backwards, in ticks that count backwards, is longer than any count of them. -/
theorem displayTime_of_longestUnit :
    let settings : Settings := ⟨some ⟨1, -90000⟩, none, none⟩
    let requests : List Request := [.header, .decode (letterBlock 0x41) 0 Int64.minValue]
    let subtitle : Subtitle :=
      ⟨Int64.maxValue, numbered 0 (cuesOf 0 Int64.minValue (letterBlock 0x41))⟩
    ((start settings).session.run requests).value[1]? = some (.subtitle (some subtitle)) ∧
      TimeBase.Fits TimeBase.milliseconds Int64.minValue ⟨1, -90000⟩ ∧
      ∃ z : ℤ, IsNearest ((Int64.minValue.toInt * (-90000 : Int64).toInt : ℚ) /
          (1000 * (1 : Int64).toInt)) z ∧
        Int64.maxValue.toInt = max (-2 ^ 63) (min (2 ^ 63 - 1) z) := by
  intro settings requests subtitle
  have hsubtitle :
      ((start settings).session.run requests).value[1]? = some (.subtitle (some subtitle)) := by
    decide +kernel
  obtain ⟨hfits, hexact, _⟩ :=
    displayTime_of_run settings requests 1 _ Int64.minValue subtitle rfl rfl hsubtitle
  exact ⟨hsubtitle, hfits, hexact⟩

end Session
end SubtitleExchange
