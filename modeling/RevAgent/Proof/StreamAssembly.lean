import RevAgent.Library.Machine
import RevAgent.Protocol.StreamAssembler
import RevAgent.Proof.JsonDigest

/-!
# What the stream assembler holds

Whatever chunks arrive, the bytes that are kept are counted, within the bounds, and lie in streams
that no other stream can be taken for. A chunk that is kept replaces one stream by a longer one or
adds a stream, and nothing here depends on the order of the streams, so one description of that step
serves for both.
-/

namespace RevAgent.Protocol

open List RevAgent.Library

variable {streamId : String} {chunkIndex : Nat} {rest : List StreamAssembly}
  {updated : StreamAssembly}

def StreamAssembly.retainedBytes (stream : StreamAssembly) : Nat :=
  (stream.chunks.map (·.bytes.length)).sum

structure Assembled (state : StreamAssemblerState) : Prop where
  bytes : state.decodedBytes = (state.streams.map (·.retainedBytes)).sum
  capped : state.decodedBytes ≤ state.limits.maxInvocationBytes
  streamBytes : ∀ stream ∈ state.streams, stream.decodedBytes = stream.retainedBytes
  indices : ∀ stream ∈ state.streams,
    stream.chunks.map (·.chunkIndex) = List.range stream.chunks.length
  chunkBytes : ∀ stream ∈ state.streams, ∀ chunk ∈ stream.chunks,
    chunk.bytes.length ≤ state.limits.maxChunkBytes
  streamIds : (state.streams.map (·.streamId)).Nodup
  artifactIds : (state.streams.filterMap (·.artifactId)).Nodup
  artifactIndices : (state.streams.filterMap (·.artifactIndex)).Nodup
  paired : ∀ stream ∈ state.streams, stream.artifactId.isSome = stream.artifactIndex.isSome
  artifacts : (state.streams.filter (·.artifactId.isSome)).length ≤ state.limits.maxArtifacts

structure Extends (state next : StreamAssemblerState) (old : Option StreamAssembly)
    (rest : List StreamAssembly) (updated : StreamAssembly) (retained : RetainedStreamChunk) :
    Prop where
  streams : state.streams.Perm (old.toList ++ rest)
  replaced : next.streams.Perm (updated :: rest)
  limits : next.limits = state.limits
  decoded : next.decodedBytes = state.decodedBytes + retained.bytes.length
  chunks : updated.chunks = old.elim [] (·.chunks) ++ [retained]
  index : retained.chunkIndex = (old.elim [] (·.chunks)).length
  streamBytes : updated.decodedBytes = old.elim 0 (·.decodedBytes) + retained.bytes.length
  paired : updated.artifactId.isSome = updated.artifactIndex.isSome
  artifact : ∀ stream ∈ old, stream.artifactId = updated.artifactId
  fresh : ∀ stream ∈ rest, stream.streamId ≠ updated.streamId
  collision : updated.artifactId.isSome → ∀ stream ∈ rest, stream.artifactId.isSome →
    stream.artifactId ≠ updated.artifactId ∧ stream.artifactIndex ≠ updated.artifactIndex
  count : old = none → updated.artifactId.isSome →
    (state.streams.filter (·.artifactId.isSome)).length < state.limits.maxArtifacts
  chunk : retained.bytes.length ≤ state.limits.maxChunkBytes
  cap : state.decodedBytes + retained.bytes.length ≤ state.limits.maxInvocationBytes

theorem streamIdentity_paired {chunk : RbpStreamChunk} {artifactId : Option String}
    {artifactIndex : Option Nat} (h : streamIdentity chunk = some (artifactId, artifactIndex)) :
    artifactId.isSome = artifactIndex.isSome := by
  unfold streamIdentity at h
  split at h
  · split at h
    · cases h
      rfl
    · cases h
  · split at h
    · split at h
      · cases h
        rfl
      · cases h
    · cases h

/-- The stream that is found is the only one of its name, so what is put in its place is put there
once. -/
theorem exists_rest {streams : List StreamAssembly} {existing : StreamAssembly}
    (hids : (streams.map (·.streamId)).Nodup)
    (hfind : streams.find? (·.streamId = streamId) = some existing) :
    existing.streamId = streamId ∧ ∃ rest, streams.Perm (existing :: rest) ∧
      (∀ stream ∈ rest, stream.streamId ≠ streamId) ∧ ∀ updated : StreamAssembly,
        (streams.map fun stream => if stream.streamId = streamId then updated else stream).Perm
          (updated :: rest) := by
  obtain ⟨hexisting, before, after, rfl, -⟩ := find?_eq_some_iff_append.mp hfind
  have hname : existing.streamId = streamId := of_decide_eq_true hexisting
  have hrest : ∀ stream ∈ before ++ after, stream.streamId ≠ streamId := by
    have hnodup := (perm_middle.map StreamAssembly.streamId).nodup_iff.mp hids
    rw [map_cons, nodup_cons, hname] at hnodup
    exact fun stream hstream heq => hnodup.1 (mem_map.mpr ⟨stream, hstream, heq⟩)
  refine ⟨hname, before ++ after, perm_middle, hrest, fun updated => ?_⟩
  have hsame : ∀ streams : List StreamAssembly, (∀ stream ∈ streams, stream.streamId ≠ streamId) →
      (streams.map fun stream => if stream.streamId = streamId then updated else stream) =
        streams := by
    intro streams hne
    calc _ = streams.map id := map_congr_left fun stream h => if_neg (hne stream h)
      _ = streams := map_id streams
  rw [map_append, map_cons, if_pos hname,
    hsame before fun stream h => hrest stream (mem_append_left _ h),
    hsame after fun stream h => hrest stream (mem_append_right _ h)]
  exact perm_middle

section Step

variable {state next : StreamAssemblerState} {chunk : RbpStreamChunk}
  {artifactId : Option String} {artifactIndex : Option Nat}

theorem placeFault_none [Host] {existing : Option StreamAssembly}
    (h : placeFault existing chunk chunkIndex artifactId artifactIndex = .ok none) :
    chunkIndex = (existing.elim [] (·.chunks)).length ∧ ∀ stream ∈ existing,
      stream.artifactId = artifactId ∧ stream.artifactIndex = artifactIndex := by
  cases existing with
  | none =>
    rw [placeFault, pure_eq_ok, ite_eq_right_iff] at h
    simpa using h
  | some existing =>
    simp only [placeFault, ite_answer_eq_ok, not_or, not_not] at h
    obtain ⟨-, hartifact, h⟩ := h
    split at h
    · obtain ⟨identity, -, h⟩ := bind_eq_ok.mp h
      rw [pure_eq_ok] at h
      split at h
      · cases h
      · cases h
    · rw [pure_eq_ok, ite_eq_right_iff] at h
      refine ⟨by simpa using h, ?_⟩
      rintro stream ⟨⟩
      exact hartifact

theorem artifactFault_none {isNew : Bool}
    (h : artifactFault state isNew streamId artifactId artifactIndex = none)
    (hartifact : artifactId.isSome) :
    (∀ stream ∈ state.streams, stream.streamId ≠ streamId → stream.artifactId.isSome →
      stream.artifactId ≠ artifactId ∧ stream.artifactIndex ≠ artifactIndex) ∧
    (isNew → (state.streams.filter (·.artifactId.isSome)).length < state.limits.maxArtifacts) := by
  unfold artifactFault at h
  rw [if_neg (by simp [Option.isSome_iff_ne_none.mp hartifact])] at h
  split at h
  · cases h
  · next hcollision =>
    split at h
    · cases h
    · next hcount =>
      refine ⟨fun stream hstream hne hsome => ?_, fun hnew => by grind⟩
      by_contra hsame
      exact hcollision (any_eq_true.mpr ⟨stream, hstream, by grind⟩)

theorem nodup_filterMap_cons {β : Type} {f : StreamAssembly → Option β}
    (hrest : (rest.filterMap f).Nodup)
    (hnew : (f updated).isSome → ∀ stream ∈ rest, f stream ≠ f updated) :
    ((updated :: rest).filterMap f).Nodup := by
  cases hvalue : f updated with
  | none => rwa [filterMap_cons_none hvalue]
  | some value =>
    rw [filterMap_cons_some hvalue, nodup_cons]
    refine ⟨fun hmem => ?_, hrest⟩
    obtain ⟨stream, hstream, hsame⟩ := mem_filterMap.mp hmem
    exact hnew (by rw [hvalue]; rfl) stream hstream (hsame.trans hvalue.symm)

theorem Assembled.of_extends {old : Option StreamAssembly} {retained : RetainedStreamChunk}
    (h : Assembled state) (hext : Extends state next old rest updated retained) :
    Assembled next := by
  have hmem : ∀ stream ∈ rest, stream ∈ state.streams := fun stream hstream =>
    hext.streams.mem_iff.mpr (mem_append_right _ hstream)
  have hold : ∀ stream ∈ old, stream ∈ state.streams := fun stream hstream =>
    hext.streams.mem_iff.mpr (mem_append_left _ (Option.mem_toList.mpr hstream))
  -- What a stream has by itself holds of the streams that stay, and of the new one.
  have hevery : ∀ {p : StreamAssembly → Prop}, p updated → (∀ stream ∈ state.streams, p stream) →
      ∀ stream ∈ next.streams, p stream := by
    intro p hupdated hstate stream hstream
    rcases mem_cons.mp (hext.replaced.mem_iff.mp hstream) with rfl | hstream
    · exact hupdated
    · exact hstate stream (hmem stream hstream)
  have hdistinct : ∀ {β : Type} {f : StreamAssembly → Option β},
      (state.streams.filterMap f).Nodup →
      ((f updated).isSome → ∀ stream ∈ rest, f stream ≠ f updated) →
      (next.streams.filterMap f).Nodup := by
    intro β f hstate hnew
    rw [(hext.replaced.filterMap f).nodup_iff]
    rw [(hext.streams.filterMap f).nodup_iff, filterMap_append] at hstate
    exact nodup_filterMap_cons (nodup_append.mp hstate).2.1 hnew
  have hsum : updated.retainedBytes = (old.elim 0 (·.retainedBytes)) + retained.bytes.length := by
    cases old <;> simp [StreamAssembly.retainedBytes, hext.chunks]
  constructor
  case bytes =>
    rw [hext.decoded, h.bytes, (hext.streams.map _).sum_nat, (hext.replaced.map _).sum_nat,
      map_cons, sum_cons, hsum]
    cases old <;> simp <;> omega
  case capped => rw [hext.decoded, hext.limits]; exact hext.cap
  case streamBytes =>
    refine hevery ?_ h.streamBytes
    rw [hext.streamBytes, hsum]
    cases old with
    | none => rfl
    | some stream => rw [Option.elim_some, Option.elim_some, h.streamBytes stream (hold stream rfl)]
  case indices =>
    refine hevery ?_ h.indices
    rw [hext.chunks, map_append, length_append, length_singleton,
      range_succ, map_singleton, hext.index]
    congr 1
    cases old with
    | none => rfl
    | some stream => exact h.indices stream (hold stream rfl)
  case chunkBytes =>
    rw [hext.limits]
    refine hevery ?_ h.chunkBytes
    intro chunk hchunk
    rw [hext.chunks, mem_append, mem_singleton] at hchunk
    rcases hchunk with hchunk | rfl
    · cases old with
      | none => cases hchunk
      | some stream => exact h.chunkBytes stream (hold stream rfl) chunk hchunk
    · exact hext.chunk
  case streamIds =>
    rw [← filterMap_eq_map]
    refine hdistinct (by rw [filterMap_eq_map]; exact h.streamIds) fun _ stream hstream heq => ?_
    exact hext.fresh stream hstream (Option.some.inj heq)
  case artifactIds =>
    refine hdistinct h.artifactIds fun hsome stream hstream heq => ?_
    exact (hext.collision hsome stream hstream (heq ▸ hsome)).1 heq
  case artifactIndices =>
    refine hdistinct h.artifactIndices fun hsome stream hstream heq => ?_
    refine (hext.collision (hext.paired ▸ hsome) stream hstream ?_).2 heq
    rw [h.paired stream (hmem stream hstream), heq]
    exact hsome
  case paired => exact hevery hext.paired h.paired
  case artifacts =>
    rw [hext.limits, (hext.replaced.filter _).length_eq, filter_cons]
    have hcount := h.artifacts
    have hstreams := (hext.streams.filter (·.artifactId.isSome)).length_eq
    cases old with
    | none =>
      have hroom := hext.count rfl
      simp only [Option.toList_none, nil_append] at hstreams
      split
      · rw [length_cons]
        grind
      · omega
    | some stream =>
      rw [Option.toList_some, singleton_append, filter_cons, hext.artifact stream rfl] at hstreams
      split at hstreams <;> simp_all

theorem createStreamAssembler_eq_ok {invocationId : String} {initial : StreamAssemblerState}
    {maxChunkBytes maxInvocationBytes maxArtifacts : Option JsNumber}
    (h : createStreamAssembler invocationId maxChunkBytes maxInvocationBytes maxArtifacts =
      .ok initial) :
    initial.streams = [] ∧ initial.decodedBytes = 0 ∧
      initial.limits.maxChunkBytes ≤ maxDecodedChunkBytes ∧
      initial.limits.maxInvocationBytes ≤ maxReconstructedInvocationBytes ∧
      initial.limits.maxArtifacts ≤ maxArtifactsPerInvocation := by
  simp only [createStreamAssembler, throw_bind, ite_throw_eq_ok] at h
  obtain ⟨-, h⟩ := h
  split at h
  · next hchunk hinvocation hartifacts =>
    cases h
    obtain ⟨_, -, rfl⟩ := Option.map_eq_some_iff.mp hchunk
    obtain ⟨_, -, rfl⟩ := Option.map_eq_some_iff.mp hinvocation
    obtain ⟨_, -, rfl⟩ := Option.map_eq_some_iff.mp hartifacts
    exact ⟨rfl, rfl, Nat.min_le_right _ _, Nat.min_le_right _ _, Nat.min_le_right _ _⟩
  · cases h

variable [Host]

theorem appendStreamChunk_cases {kind : AppendStreamChunkKind}
    (hids : (state.streams.map (·.streamId)).Nodup)
    (h : appendStreamChunk state chunk = .ok (kind, next)) :
    next = state ∨ (kind = .appended ∧
      ∃ old rest updated retained, Extends state next old rest updated retained) := by
  unfold appendStreamChunk at h
  split at h
  · cases h
    exact .inl rfl
  split at h
  case h_2 =>
    cases h
    exact .inl rfl
  split at h
  case h_2 =>
    cases h
    exact .inl rfl
  next chunkIndex hindex _ artifactId artifactIndex hidentity =>
  split at h
  case h_2 =>
    cases h
    exact .inl rfl
  next bytes hbytes =>
  split at h
  · cases h
    exact .inl rfl
  next hchunk =>
  obtain ⟨place, hplace, h⟩ := bind_eq_ok.mp h
  cases place with
  | some place =>
    cases h
    exact .inl rfl
  | none =>
  dsimp only at h
  split at h
  · cases h
    exact .inl rfl
  next hartifact =>
  split at h
  · cases h
    exact .inl rfl
  next hcap =>
  obtain ⟨identityDigest, -, h⟩ := bind_eq_ok.mp h
  cases h
  refine .inr ⟨rfl, ?_⟩
  have hfault := artifactFault_none (Option.eq_none_iff_forall_ne_some.mpr hartifact)
  obtain ⟨hplaced, hsame⟩ := placeFault_none hplace
  have hpaired := streamIdentity_paired hidentity
  clear hartifact hplace
  -- The checks are behind: a new stream is put last, a known one takes the chunk where it stands.
  let retained : RetainedStreamChunk := { chunkIndex, identityDigest, bytes }
  cases hexisting : state.streams.find? (·.streamId = chunk.streamId) with
  | none =>
    rw [hexisting] at hfault hplaced
    have hfresh : ∀ stream ∈ state.streams, stream.streamId ≠ chunk.streamId := by
      simpa using hexisting
    refine ⟨none, state.streams, updatedStream none chunk artifactId artifactIndex retained,
      retained, ?_⟩
    constructor
    case replaced => exact perm_append_singleton _ _
    case streams => exact .refl _
    case chunk => exact Nat.le_of_not_lt hchunk
    case cap => exact Nat.le_of_not_lt hcap
    case collision =>
      exact fun hsome stream hstream => (hfault hsome).1 stream hstream (hfresh stream hstream)
    case count => exact fun _ hsome => (hfault hsome).2 rfl
    case streamBytes => exact (Nat.zero_add _).symm
    all_goals first | rfl | assumption | nofun
  | some existing =>
    rw [hexisting] at hfault hplaced hsame
    obtain ⟨rfl, rfl⟩ := hsame existing rfl
    obtain ⟨hname, rest, hstreams, hfresh, hreplace⟩ := exists_rest hids hexisting
    refine ⟨some existing, rest, updatedStream (some existing) chunk existing.artifactId
      existing.artifactIndex retained, retained, ?_⟩
    constructor
    case replaced =>
      rw [← hname] at hreplace
      exact hreplace _
    case streams => exact hstreams
    case chunk => exact Nat.le_of_not_lt hchunk
    case cap => exact Nat.le_of_not_lt hcap
    case collision =>
      intro hsome stream hstream
      exact (hfault hsome).1 stream (hstreams.mem_iff.mpr (mem_cons_of_mem _ hstream))
        (hfresh stream hstream)
    case artifact =>
      rintro stream ⟨⟩
      rfl
    case fresh =>
      rw [← hname] at hfresh
      exact hfresh
    all_goals first | rfl | assumption | nofun

theorem chunkIdentity_total {identity : Option String × Option Nat}
    (hindex : safeNonNegativeInteger? chunk.chunkIndex = some chunkIndex)
    (hidentity : streamIdentity chunk = some identity) :
    ∃ digest, chunkIdentity chunk = .ok digest := by
  have hfinite : ∀ {number : JsNumber} {value : Nat}, safeNonNegativeInteger? number = some value →
      (JsonValue.number number).isFinite = true := by
    intro number value h
    cases number with
    | nonFinite => cases h
    | finite | negativeZero => rfl
  have hartifact : (chunk.artifactIndex.elim .null .number : JsonValue).isFinite = true := by
    cases hnumber : chunk.artifactIndex with
    | none => rfl
    | some number =>
      cases number with
      | nonFinite =>
        simp [streamIdentity, hnumber, safeNonNegativeInteger?, JsNumber.safeInteger?] at hidentity
      | finite | negativeZero => rfl
  refine ⟨_, makeJsonDigest_eq ?_⟩
  have hid : (chunk.artifactId.elim .null .string : JsonValue).isFinite = true := by
    cases chunk.artifactId <;> rfl
  rw [JsonValue.isFinite, membersFinite, membersFinite, membersFinite, hid, hartifact,
    hfinite hindex]
  rfl

theorem placeFault_total {digest : String} (hdigest : chunkIdentity chunk = .ok digest)
    (existing : Option StreamAssembly) (chunkIndex : Nat) :
    ∃ place, placeFault existing chunk chunkIndex artifactId artifactIndex = .ok place := by
  unfold placeFault
  rw [hdigest]
  split
  · exact ⟨_, rfl⟩
  · split
    · exact ⟨_, rfl⟩
    · split
      · exact ⟨_, rfl⟩
      · split <;> exact ⟨_, rfl⟩

theorem appendStreamChunk_total (chunk : RbpStreamChunk) :
    ∃ result, appendStreamChunk state chunk = .ok result := by
  unfold appendStreamChunk
  split
  · exact ⟨_, rfl⟩
  split
  case h_2 => exact ⟨_, rfl⟩
  next chunkIndex hindex =>
  split
  case h_2 => exact ⟨_, rfl⟩
  next artifactId artifactIndex hidentity =>
  obtain ⟨digest, hdigest⟩ := chunkIdentity_total hindex hidentity
  split
  case h_2 => exact ⟨_, rfl⟩
  split
  · exact ⟨_, rfl⟩
  obtain ⟨place, hplace⟩ := @placeFault_total chunk artifactId artifactIndex _ _ hdigest
    (state.streams.find? (·.streamId = chunk.streamId)) chunkIndex
  simp only [hplace, hdigest, bind, Except.bind]
  split
  · exact ⟨_, rfl⟩
  · split
    · exact ⟨_, rfl⟩
    · split <;> exact ⟨_, rfl⟩

/-- **The stream assembler keeps its bounds.** From a new assembler on, whatever chunks arrive: the
bytes kept are those counted and within the cap, every stream is a gapless sequence of chunks within
their cap, no two streams share a name, an artifact or the place of one, and there are no more
artifacts than allowed. Only a chunk that is appended changes anything. -/
theorem streamAssembler_keeps_bounds {invocationId : String} {initial : StreamAssemblerState}
    {maxChunkBytes maxInvocationBytes maxArtifacts : Option JsNumber}
    (hcreate : createStreamAssembler invocationId maxChunkBytes maxInvocationBytes maxArtifacts =
      .ok initial)
    (chunks : List RbpStreamChunk) :
    let reached := (exec streamStep initial chunks).1
    Assembled reached ∧ reached.limits = initial.limits ∧
      initial.limits.maxChunkBytes ≤ maxDecodedChunkBytes ∧
      initial.limits.maxInvocationBytes ≤ maxReconstructedInvocationBytes ∧
      initial.limits.maxArtifacts ≤ maxArtifactsPerInvocation ∧
      ∀ chunk, ∃ kind next, appendStreamChunk reached chunk = .ok (kind, next) ∧
        (kind ≠ .appended → next = reached) := by
  obtain ⟨hstreams, hbytes, hlimits⟩ := createStreamAssembler_eq_ok hcreate
  have hinitial : Assembled initial := by
    constructor <;> simp [hstreams, hbytes]
  have hstep : ∀ state chunk, Assembled state ∧ state.limits = initial.limits →
      Assembled (streamStep state chunk).1 ∧ (streamStep state chunk).1.limits = initial.limits := by
    rintro state chunk ⟨hstate, hkept⟩
    unfold streamStep
    split
    · next kind next happend =>
      rcases appendStreamChunk_cases hstate.streamIds happend with rfl | ⟨-, _, _, _, _, hextends⟩
      · exact ⟨hstate, hkept⟩
      · exact ⟨hstate.of_extends hextends, hextends.limits.trans hkept⟩
    · exact ⟨hstate, hkept⟩
  obtain ⟨hreached, hkept⟩ := @exec_invariant _ _ _ streamStep
    (fun state => Assembled state ∧ state.limits = initial.limits) hstep _ ⟨hinitial, rfl⟩ chunks
  refine ⟨hreached, hkept, hlimits.1, hlimits.2.1, hlimits.2.2, fun chunk => ?_⟩
  obtain ⟨⟨kind, next⟩, happend⟩ := appendStreamChunk_total chunk
  refine ⟨kind, next, happend, fun hkind => ?_⟩
  rcases appendStreamChunk_cases hreached.streamIds happend with hsame | ⟨happended, -⟩
  · exact hsame
  · exact absurd happended hkind

end Step

theorem two_chunks_of_a_result :
    let : Host := tableHost []
    let initial : StreamAssemblerState :=
      { invocationId := "i", streams := [], decodedBytes := 0, limits := ⟨1048576, 4, 16⟩ }
    let chunk (index : Nat) : RbpStreamChunk :=
      { invocationId := "i", streamId := "result", chunkIndex := .ofNat index, contentType := "t",
        encoding := "base64", data := "AAAA", artifactId := none, artifactIndex := none }
    createStreamAssembler "i" none (some (.ofNat 4)) none = .ok initial ∧
      (exec streamStep initial [chunk 0, chunk 1]).1.decodedBytes = 3 ∧
      Assembled (exec streamStep initial [chunk 0, chunk 1]).1 := by
  intro _ initial chunk
  have hcreate : createStreamAssembler "i" none (some (.ofNat 4)) none = .ok initial := by decide
  exact ⟨hcreate, by decide, (streamAssembler_keeps_bounds hcreate _).1⟩

end RevAgent.Protocol
