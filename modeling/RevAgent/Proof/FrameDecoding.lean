import RevAgent.Bridge.FrameCodec
import RevAgent.Library.Fallible
import RevAgent.Library.Machine

/-!
# Frames do not depend on how the bytes arrive

The decoder copies whole blocks, but it does what a machine that is given one byte at a time does
(`feedBytes_eq`). A stream that is cut into pieces is the same sequence of bytes for that machine, so
the frames, the failure and the decoder that is left are the same however it is cut. A frame takes the
machine from rest back to rest and comes out as its payload.
-/

namespace RevAgent.Bridge

open List RevAgent.Library

variable {frames : List Bytes} {maxPayloadBytes : Int32} {payload : Bytes}

theorem or_bytes {a b c d : Nat} (hb : b < 256) (hc : c < 256) (hd : d < 256) :
    a <<< 24 ||| b <<< 16 ||| c <<< 8 ||| d = a * 2 ^ 24 + b * 2 ^ 16 + c * 2 ^ 8 + d := by
  have hlow : c <<< 8 ||| d = c * 2 ^ 8 + d := by
    rw [← Nat.shiftLeft_add_eq_or_of_lt (by omega), Nat.shiftLeft_eq]
  have hmiddle : b <<< 16 ||| (c * 2 ^ 8 + d) = b * 2 ^ 16 + (c * 2 ^ 8 + d) := by
    rw [← Nat.shiftLeft_add_eq_or_of_lt (by omega), Nat.shiftLeft_eq]
  have hhigh : a <<< 24 ||| (b * 2 ^ 16 + (c * 2 ^ 8 + d)) =
      a * 2 ^ 24 + (b * 2 ^ 16 + (c * 2 ^ 8 + d)) := by
    rw [← Nat.shiftLeft_add_eq_or_of_lt (by omega), Nat.shiftLeft_eq]
  rw [Nat.or_assoc, Nat.or_assoc, hlow, hmiddle, hhigh]
  omega

theorem readPayloadLength_writePayloadLength (length : UInt32) :
    readPayloadLength (writePayloadLength length) = length := by
  apply UInt32.toNat_inj.mp
  have hbound : length.toNat < 2 ^ 32 := length.toNat_lt
  have hbyte (n : Nat) : n % 256 < 256 := Nat.mod_lt n (by decide)
  have hshift (n place : Nat) (hplace : place ≤ 24) :
      (n % 256) <<< place % 2 ^ 32 = (n % 256) <<< place := by
    apply Nat.mod_eq_of_lt
    rw [Nat.shiftLeft_eq]
    calc n % 256 * 2 ^ place < 2 ^ 8 * 2 ^ 24 :=
          Nat.mul_lt_mul_of_lt_of_le (hbyte n) (Nat.pow_le_pow_right (by decide) hplace) (by decide)
      _ = 2 ^ 32 := by decide
  simp only [readPayloadLength, writePayloadLength, UInt32.toNat_or, UInt32.toNat_shiftLeft,
    getElem?_cons_zero, getElem?_cons_succ, Option.getD_some, UInt8.toNat_toUInt32,
    UInt32.toNat_toUInt8, UInt32.toNat_shiftRight, UInt32.reduceToNat, Nat.reduceMod]
  rw [hshift _ 24 (by decide), hshift _ 16 (by decide), hshift _ 8 (by decide),
    or_bytes (hbyte _) (hbyte _) (hbyte _)]
  simp only [Nat.shiftRight_eq_div_pow]
  omega

namespace LengthPrefixedFrameDecoder

theorem headerBytes_pos : 0 < headerBytes := by decide

def openFrame (decoder : LengthPrefixedFrameDecoder) (header : Bytes) :
    LengthPrefixedFrameDecoder × List Bytes :=
  let declared := readPayloadLength header
  if decoder.maxPayloadBytes < declared.toNat then (decoder.fault declared, [])
  else
    let cleared := { decoder with header := [], headerIncomplete := headerBytes_pos }
    if hdeclared : 0 < declared.toNat then
      ({ cleared with
        payload := some { declared := declared.toNat, received := [], incomplete := hdeclared } }, [])
    else (cleared, [[]])

def receiveByte (decoder : LengthPrefixedFrameDecoder) (byte : UInt8) :
    LengthPrefixedFrameDecoder × List Bytes :=
  match decoder.failure, decoder.payload with
  | some _, _ => (decoder, [])
  | none, some pending =>
    let received := pending.received ++ [byte]
    if h : received.length < pending.declared then
      ({ decoder with payload := some { declared := pending.declared, received, incomplete := h } },
        [])
    else ({ decoder with payload := none }, [received])
  | none, none =>
    let header := decoder.header ++ [byte]
    if h : header.length < headerBytes then ({ decoder with header, headerIncomplete := h }, [])
    else decoder.openFrame header

def receive (decoder : LengthPrefixedFrameDecoder) (bytes : Bytes) :
    LengthPrefixedFrameDecoder × List Bytes :=
  ((exec receiveByte decoder bytes).1, (exec receiveByte decoder bytes).2.flatten)

variable {decoder : LengthPrefixedFrameDecoder} {bytes : Bytes}

@[simp]
theorem receive_nil : decoder.receive [] = (decoder, []) := rfl

theorem receive_append (first second : Bytes) :
    decoder.receive (first ++ second) =
      (((decoder.receive first).1.receive second).1,
        (decoder.receive first).2 ++ ((decoder.receive first).1.receive second).2) := by
  simp [receive, exec_append]

theorem receive_cons (byte : UInt8) (rest : Bytes) :
    decoder.receive (byte :: rest) =
      (((decoder.receiveByte byte).1.receive rest).1,
        (decoder.receiveByte byte).2 ++ ((decoder.receiveByte byte).1.receive rest).2) := by
  simp [receive, exec_cons]

theorem receive_singleton (byte : UInt8) : decoder.receive [byte] = decoder.receiveByte byte := by
  simp [receive, exec_cons]

theorem receive_of_failure (h : decoder.failure ≠ none) : decoder.receive bytes = (decoder, []) := by
  obtain ⟨failure, hfailure⟩ := Option.ne_none_iff_exists'.mp h
  have hbyte (byte : UInt8) : decoder.receiveByte byte = (decoder, []) := by
    simp only [receiveByte, hfailure]
  induction bytes with
  | nil => rfl
  | cons byte rest ih => rw [receive_cons, hbyte, ih, append_nil]

theorem receive_header (hfailure : decoder.failure = none) (hpayload : decoder.payload = none)
    (h : (decoder.header ++ bytes).length < headerBytes) :
    decoder.receive bytes =
      ({ decoder with header := decoder.header ++ bytes, headerIncomplete := h }, []) := by
  induction bytes generalizing decoder with
  | nil => simp
  | cons byte rest ih =>
    have hbyte : (decoder.header ++ [byte]).length < headerBytes := by
      simp only [length_append, length_cons, length_nil] at h ⊢
      omega
    have hreceive : decoder.receiveByte byte =
        ({ decoder with header := decoder.header ++ [byte], headerIncomplete := hbyte }, []) := by
      simp only [receiveByte, hfailure, hpayload, dif_pos hbyte]
    have hrest := @ih { decoder with header := decoder.header ++ [byte], headerIncomplete := hbyte }
      hfailure hpayload (by simpa [Nat.add_assoc, Nat.add_comm] using h)
    rw [receive_cons, hreceive, hrest]
    simp

theorem receive_whole_header (hfailure : decoder.failure = none) (hpayload : decoder.payload = none)
    (h : (decoder.header ++ bytes).length = headerBytes) :
    decoder.receive bytes = decoder.openFrame (decoder.header ++ bytes) := by
  have hne : bytes ≠ [] := by
    rintro rfl
    rw [append_nil] at h
    exact absurd h decoder.headerIncomplete.ne
  obtain ⟨before, last, rfl⟩ : ∃ before last, bytes = before ++ [last] :=
    ⟨_, _, (dropLast_concat_getLast hne).symm⟩
  have hbefore : (decoder.header ++ before).length < headerBytes := by
    simp only [length_append, length_cons, length_nil] at h ⊢
    omega
  have hfull : ¬ (decoder.header ++ before ++ [last]).length < headerBytes := by
    rw [append_assoc, h]
    exact lt_irrefl _
  have hlast : ({ decoder with
      header := decoder.header ++ before
      headerIncomplete := hbefore } : LengthPrefixedFrameDecoder).receiveByte last =
        decoder.openFrame (decoder.header ++ before ++ [last]) := by
    simp only [receiveByte, hfailure, hpayload, dif_neg hfull, openFrame, fault]
  rw [receive_append, receive_header hfailure hpayload hbefore, receive_singleton, hlast,
    append_assoc, nil_append]

theorem receive_payload {pending : PendingPayload} (hfailure : decoder.failure = none)
    (hpayload : decoder.payload = some pending)
    (h : (pending.received ++ bytes).length ≤ pending.declared) :
    decoder.receive bytes =
      if hmissing : (pending.received ++ bytes).length < pending.declared then
        ({ decoder with
          payload := some {
            declared := pending.declared
            received := pending.received ++ bytes
            incomplete := hmissing } }, [])
      else ({ decoder with payload := none }, [pending.received ++ bytes]) := by
  induction bytes generalizing decoder pending with
  | nil =>
    rw [dif_pos (by simpa using pending.incomplete)]
    simp [← hpayload]
  | cons byte rest ih =>
    by_cases hbyte : (pending.received ++ [byte]).length < pending.declared
    · have hreceive : decoder.receiveByte byte =
          ({ decoder with
            payload := some {
              declared := pending.declared
              received := pending.received ++ [byte]
              incomplete := hbyte } }, []) := by
        simp only [receiveByte, hfailure, hpayload, dif_pos hbyte]
      rw [receive_cons, hreceive, ih (by exact hfailure) rfl (by simpa using h)]
      simp
    · have hreceive : decoder.receiveByte byte =
          ({ decoder with payload := none }, [pending.received ++ [byte]]) := by
        simp only [receiveByte, hfailure, hpayload, dif_neg hbyte]
      have hrest : rest = [] := by
        simp only [length_append, length_cons, length_nil] at h hbyte
        exact eq_nil_of_length_eq_zero (by omega)
      rw [hrest, dif_neg hbyte, receive_singleton, hreceive]

def TakesBytes (decoder : LengthPrefixedFrameDecoder) (bytes : Bytes) (round : Round) : Prop :=
  ∃ taken, bytes = taken ++ round.2.2 ∧ (bytes ≠ [] → taken ≠ []) ∧
    decoder.receive taken = (round.1, round.2.1)

theorem take_ne_nil {count : Nat} (hcount : 0 < count) (hbytes : bytes ≠ []) :
    bytes.take count ≠ [] := by
  rw [Ne, take_eq_nil_iff, not_or]
  exact ⟨hcount.ne', hbytes⟩

theorem takePayload_takesBytes {pending : PendingPayload} (hfailure : decoder.failure = none) :
    TakesBytes { decoder with payload := some pending } bytes (decoder.takePayload pending bytes) := by
  set count := min (pending.declared - pending.received.length) bytes.length with hcount
  have hfits : (pending.received ++ bytes.take count).length ≤ pending.declared := by
    rw [length_append, length_take]
    have := pending.incomplete
    omega
  have hreceive := @receive_payload { decoder with payload := some pending } (bytes.take count) pending
    hfailure rfl hfits
  refine ⟨bytes.take count, ?_, ?_, ?_⟩
  · unfold takePayload
    simp only [← hcount]
    split <;> exact (take_append_drop count bytes).symm
  · intro hbytes
    refine take_ne_nil ?_ hbytes
    have := pending.incomplete
    have := length_pos_iff.mpr hbytes
    omega
  · rw [hreceive]
    unfold takePayload
    simp only [← hcount]
    split <;> rfl

theorem TakesBytes.of_append {first : Bytes} {middle : LengthPrefixedFrameDecoder} {round : Round}
    (hne : first ≠ []) (hfirst : decoder.receive first = (middle, []))
    (h : TakesBytes middle bytes round) : TakesBytes decoder (first ++ bytes) round := by
  obtain ⟨taken, htaken, -, hreceive⟩ := h
  refine ⟨first ++ taken, by rw [append_assoc, ← htaken], ?_, ?_⟩
  · intro _
    exact append_ne_nil_of_left_ne_nil hne taken
  · rw [receive_append, hfirst, hreceive, nil_append]

theorem feedRound_takesBytes (hfailure : decoder.failure = none) (hbytes : bytes ≠ []) :
    TakesBytes decoder bytes (decoder.feedRound bytes) := by
  unfold feedRound
  split
  · rename_i pending hpayload
    have htakes := @takePayload_takesBytes decoder bytes pending hfailure
    rwa [← hpayload] at htakes
  rename_i hpayload
  set count := min (headerBytes - decoder.header.length) bytes.length with hcount
  have hwhole : bytes.take count ++ bytes.drop count = bytes := take_append_drop count bytes
  have hheader := decoder.headerIncomplete
  have htaken : bytes.take count ≠ [] := by
    have := length_pos_iff.mpr hbytes
    exact take_ne_nil (by omega) hbytes
  dsimp only
  split
  · rename_i hpartial
    exact ⟨bytes.take count, hwhole.symm, fun _ => htaken,
      receive_header hfailure hpayload hpartial⟩
  rename_i hcomplete
  have hfull : (decoder.header ++ bytes.take count).length = headerBytes := by
    simp only [length_append, length_take] at hcomplete ⊢
    omega
  have hreceive := receive_whole_header hfailure hpayload hfull
  simp only [openFrame] at hreceive
  split at hreceive
  · rename_i hlimit
    rw [if_pos hlimit]
    exact ⟨bytes.take count, hwhole.symm, fun _ => htaken, hreceive⟩
  rename_i hlimit
  rw [if_neg hlimit]
  split at hreceive
  · rename_i hdeclared
    rw [dif_pos hdeclared]
    have htakes := TakesBytes.of_append htaken hreceive (@takePayload_takesBytes
      { decoder with header := [], headerIncomplete := by decide } (bytes.drop count) _ hfailure)
    rwa [hwhole] at htakes
  · rename_i hdeclared
    rw [dif_neg hdeclared]
    exact ⟨bytes.take count, hwhole.symm, fun _ => htaken, hreceive⟩

def fed (decoder : LengthPrefixedFrameDecoder) (frames : List Bytes) (bytes : Bytes) :
    LengthPrefixedFrameDecoder × FrameDecodeResult :=
  ((decoder.receive bytes).1,
    { frames := frames ++ (decoder.receive bytes).2, failure := (decoder.receive bytes).1.failure })

theorem feedLoop_eq {rounds : Nat} (hfailure : decoder.failure = none)
    (hrounds : bytes.length ≤ rounds) :
    feedLoop rounds decoder bytes frames = decoder.fed frames bytes := by
  induction rounds generalizing decoder bytes frames with
  | zero =>
    obtain rfl := eq_nil_of_length_eq_zero (Nat.le_zero.mp hrounds)
    simp [feedLoop, fed, hfailure]
  | succ rounds ih =>
    rw [feedLoop]
    split
    · rename_i hbytes
      simp [hbytes, fed, hfailure]
    rename_i hbytes
    obtain ⟨taken, htaken, hne, hreceive⟩ := feedRound_takesBytes hfailure hbytes
    generalize decoder.feedRound bytes = round at htaken hreceive ⊢
    obtain ⟨next, emitted, rest⟩ := round
    dsimp only at htaken hreceive ⊢
    have hall : decoder.fed frames bytes = next.fed (frames ++ emitted) rest := by
      rw [fed, fed, htaken, receive_append, hreceive, append_assoc]
    rw [hall]
    split
    · rename_i failure hfailed
      rw [fed, receive_of_failure (by simp [hfailed]), append_nil, hfailed]
    · rename_i hhealthy
      refine ih hhealthy ?_
      have := length_pos_iff.mpr (hne hbytes)
      rw [htaken, length_append] at hrounds
      omega

/-- **The loop over blocks does what the byte machine does.** -/
theorem feedBytes_eq (decoder : LengthPrefixedFrameDecoder) (bytes : Bytes) :
    decoder.feedBytes bytes = decoder.fed [] bytes := by
  unfold feedBytes
  split
  · rename_i failure hfailure
    rw [fed, receive_of_failure (by simp [hfailure]), hfailure]
    rfl
  · rename_i hfailure
    exact feedLoop_eq hfailure (Nat.le_refl _)

theorem feed_eq (decoder : LengthPrefixedFrameDecoder) (bytes : Bytes) :
    decoder.feed bytes = .ok (decoder.fed [] bytes) := by
  have hrange : ¬ ((0 : Int) < 0 ∨ (bytes.length : Int) < 0 ∨
      (bytes.length : Int) - (bytes.length : Int) < 0) := by omega
  rw [feed, feedRange, if_neg hrange]
  simp [feedBytes_eq]

inductive FeedCall where
  | whole (bytes : Bytes)
  | range (bytes : Bytes) (offset count : Int)

def FeedCall.invoke (decoder : LengthPrefixedFrameDecoder) :
    FeedCall → Except FrameError (LengthPrefixedFrameDecoder × FrameDecodeResult)
  | .whole bytes => decoder.feed bytes
  | .range bytes offset count => decoder.feedRange bytes offset count

/-- The bytes a call hands over. A call whose range is refused hands over none. -/
def FeedCall.piece : FeedCall → Bytes
  | .whole bytes => bytes
  | .range bytes offset count =>
    if offset < 0 ∨ count < 0 ∨ (bytes.length : Int) - count < offset then []
    else (bytes.drop offset.toNat).take count.toNat

def callStep (decoder : LengthPrefixedFrameDecoder) (call : FeedCall) :
    LengthPrefixedFrameDecoder × Option FrameDecodeResult :=
  match call.invoke decoder with
  | .ok (next, result) => (next, some result)
  | .error _ => (decoder, none)

theorem callStep_cases (decoder : LengthPrefixedFrameDecoder) (call : FeedCall) :
    callStep decoder call = ((decoder.fed [] call.piece).1, some (decoder.fed [] call.piece).2) ∨
      call.piece = [] ∧ callStep decoder call = (decoder, none) := by
  cases call with
  | whole bytes =>
    left
    rw [callStep, FeedCall.invoke, feed_eq]
    rfl
  | range bytes offset count =>
    by_cases hrange : offset < 0 ∨ count < 0 ∨ (bytes.length : Int) - count < offset
    · refine .inr ⟨if_pos hrange, ?_⟩
      rw [callStep, FeedCall.invoke, feedRange, if_pos hrange]
      rfl
    · left
      rw [callStep, FeedCall.invoke, feedRange, if_neg hrange, FeedCall.piece, if_neg hrange,
        feedBytes_eq]
      rfl

def emitted (results : List (Option FrameDecodeResult)) : List Bytes :=
  results.reduceOption.flatMap (·.frames)

theorem exec_callStep (decoder : LengthPrefixedFrameDecoder) (calls : List FeedCall) :
    let stream := calls.flatMap FeedCall.piece
    (exec callStep decoder calls).1 = (decoder.receive stream).1 ∧
      emitted (exec callStep decoder calls).2 = (decoder.receive stream).2 ∧
      ∀ result ∈ (exec callStep decoder calls).2.reduceOption.getLast?,
        result.failure = (decoder.receive stream).1.failure := by
  induction calls using reverseRecOn with
  | nil => exact ⟨rfl, rfl, by nofun⟩
  | append_singleton calls call ih =>
    obtain ⟨hdecoder, hframes, hlast⟩ := ih
    have hstream : (calls ++ [call]).flatMap FeedCall.piece =
        calls.flatMap FeedCall.piece ++ call.piece := by simp
    simp only [hstream, exec_append, exec_cons, exec_nil]
    rcases callStep_cases (decoder.receive (calls.flatMap FeedCall.piece)).1 call with
      hcall | ⟨hpiece, hcall⟩
    · simp only [hcall, hdecoder, receive_append]
      refine ⟨rfl, ?_, ?_⟩
      · rw [← hframes, emitted, reduceOption_append, flatMap_append]
        simp [fed, emitted, reduceOption]
      · rw [reduceOption_append]
        simp [fed, reduceOption]
    · simp only [hcall, hdecoder, hpiece, append_nil, emitted, reduceOption_append]
      refine ⟨trivial, ?_, ?_⟩
      · simpa [reduceOption, emitted] using hframes
      · simpa [reduceOption] using hlast

structure AtRest (decoder : LengthPrefixedFrameDecoder) : Prop where
  header : decoder.header = []
  payload : decoder.payload = none
  failure : decoder.failure = none

theorem AtRest.of_create (h : create maxPayloadBytes = .ok decoder) :
    decoder.AtRest ∧ (decoder.maxPayloadBytes : Int) = maxPayloadBytes.toInt := by
  simp only [create, throw_bind, ite_throw_eq_ok, pure_eq_ok] at h
  obtain ⟨hsign, rfl⟩ := h
  exact ⟨⟨rfl, rfl, rfl⟩, Int.toNat_of_nonneg (Int.not_lt.mp hsign)⟩

theorem AtRest.receive_frame (h : decoder.AtRest)
    (hlimit : payload.length ≤ decoder.maxPayloadBytes) (hbound : payload.length < 2 ^ 32) :
    decoder.receive (writePayloadLength (UInt32.ofNat payload.length) ++ payload) =
      (decoder, [payload]) := by
  obtain ⟨limit, _, _, _, hincomplete⟩ := decoder
  obtain ⟨rfl, rfl, rfl⟩ := h
  have hdeclared : (UInt32.ofNat payload.length).toNat = payload.length :=
    UInt32.toNat_ofNat_of_lt' hbound
  have hlength := @receive_whole_header ⟨limit, [], none, none, hincomplete⟩
    (writePayloadLength (UInt32.ofNat payload.length)) rfl rfl rfl
  rw [receive_append, hlength, nil_append]
  simp only [openFrame, readPayloadLength_writePayloadLength, hdeclared,
    if_neg (Nat.not_lt.mpr hlimit)]
  split
  · rename_i hpositive
    have hreceive := (@receive_payload
      ⟨limit, [], some ⟨payload.length, [], hpositive⟩, none, hincomplete⟩ payload _ rfl rfl
      (Nat.le_refl _)).trans (dif_neg (Nat.lt_irrefl _))
    rw [hreceive]
    rfl
  · rename_i hempty
    obtain rfl := eq_nil_of_length_eq_zero (Nat.le_zero.mp (Nat.not_lt.mp hempty))
    rfl

theorem AtRest.receive_frames (h : decoder.AtRest)
    (hmax : (decoder.maxPayloadBytes : Int) = maxPayloadBytes.toInt) {payloads : List Bytes}
    (hframes : Forall₂ (fun payload frame => encodePayload payload maxPayloadBytes = .ok frame)
      payloads frames) :
    decoder.receive frames.flatten = (decoder, payloads) := by
  induction hframes with
  | nil => rfl
  | @cons payload frame payloads frames hframe _ ih =>
    simp only [encodePayload, throw_bind, ite_throw_eq_ok, pure_eq_ok] at hframe
    obtain ⟨-, hlimit, rfl⟩ := hframe
    have hint : maxPayloadBytes.toInt < 2 ^ 31 := maxPayloadBytes.toInt_lt
    rw [flatten_cons, receive_append, h.receive_frame (by omega) (by omega), ih]
    rfl

theorem exists_encodePayload (hsign : 0 ≤ maxPayloadBytes.toInt)
    (hlimit : (payload.length : Int) ≤ maxPayloadBytes.toInt) :
    ∃ frame, encodePayload payload maxPayloadBytes = .ok frame := by
  rw [encodePayload, if_neg (Int.not_lt.mpr hsign), if_neg (Int.not_lt.mpr hlimit)]
  exact ⟨_, rfl⟩

/-- **Frame decoding does not depend on how the bytes arrive.** Every sequence of calls emits the
frames and ends with the failure and the decoder of one call on the whole stream; frames that were
encoded come out as their payloads with nothing left over; and a decoder that has failed emits
nothing any more. -/
theorem frame_decoding :
    (∀ (decoder : LengthPrefixedFrameDecoder) (calls : List FeedCall), ∃ final result,
      decoder.feed (calls.flatMap FeedCall.piece) = .ok (final, result) ∧
      (exec callStep decoder calls).1 = final ∧
      emitted (exec callStep decoder calls).2 = result.frames ∧ final.failure = result.failure ∧
      ∀ last ∈ (exec callStep decoder calls).2.reduceOption.getLast?, last.failure = result.failure) ∧
    (∀ (maxPayloadBytes : Int32) (payloads : List Bytes), 0 ≤ maxPayloadBytes.toInt →
      (∀ payload ∈ payloads, (payload.length : Int) ≤ maxPayloadBytes.toInt) →
      ∃ decoder frames, create maxPayloadBytes = .ok decoder ∧
        Forall₂ (fun payload frame => encodePayload payload maxPayloadBytes = .ok frame)
          payloads frames ∧
        decoder.feed frames.flatten = .ok (decoder, { frames := payloads, failure := none })) ∧
    ∀ (decoder : LengthPrefixedFrameDecoder) (calls : List FeedCall), decoder.failure ≠ none →
      emitted (exec callStep decoder calls).2 = [] := by
  refine ⟨?_, ?_, ?_⟩
  · intro decoder calls
    obtain ⟨hdecoder, hframes, hlast⟩ := exec_callStep decoder calls
    exact ⟨_, _, feed_eq _ _, hdecoder, hframes, rfl, hlast⟩
  · intro maxPayloadBytes payloads hsign hlimits
    obtain ⟨decoder, hcreate⟩ : ∃ decoder, create maxPayloadBytes = .ok decoder := by
      rw [create, if_neg (Int.not_lt.mpr hsign)]
      exact ⟨_, rfl⟩
    obtain ⟨frames, hframes⟩ := exists_forall₂ fun payload hpayload =>
      exists_encodePayload hsign (hlimits payload hpayload)
    obtain ⟨hrest, hmax⟩ := AtRest.of_create hcreate
    refine ⟨decoder, frames, hcreate, hframes, ?_⟩
    rw [feed_eq, fed, hrest.receive_frames hmax hframes, hrest.failure]
    rfl
  · intro decoder calls hfailure
    rw [(exec_callStep decoder calls).2.1, receive_of_failure hfailure]

theorem sampleFrames_decoded :
    (∃ decoder frames, create 16 = .ok decoder ∧
      Forall₂ (fun payload frame => encodePayload payload 16 = .ok frame) [[7, 9], []] frames ∧
      decoder.feed frames.flatten = .ok (decoder, { frames := [[7, 9], []], failure := none })) ∧
    ∃ decoder, create 2 = .ok decoder ∧
      emitted (exec callStep (decoder.fault 3) [.whole [0, 0, 0, 1, 5]]).2 = [] := by
  obtain ⟨-, hround, hfailed⟩ := frame_decoding
  refine ⟨hround 16 [[7, 9], []] (by decide) (by decide), _, rfl, ?_⟩
  exact hfailed _ _ (by nofun)

end LengthPrefixedFrameDecoder

end RevAgent.Bridge
