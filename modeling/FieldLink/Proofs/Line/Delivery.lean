/-
  FieldLink.Proofs.Line.Delivery
  ────────────────────────────────
  **TRANSFERS OVER A LINE THAT WORKS.**

  A platform is `Readable` about a backlog if reads give the octets of the
  backlog in order and in pieces of any size that are not empty, and waits
  can be bounded; a read then takes exactly what it was asked for off the
  backlog.  It is `Reliable` if no call fails on it, so that writes take
  something each time as well; then every transfer succeeds:

      readExact_readable   — a complete read, however the backlog is split
      writeAll_reliable    — a complete write, which reads nothing
      feeds_readable,
      delivers_reliable    — a script of chunks is such a platform

  An `Unbroken` platform also gives the whole backlog to one read that asks
  for all of it, as a serial line does with a frame:

      read_unbroken           — one read, and nothing is left
      deliversWhole_unbroken  — a script of one chunk is such a platform
-/
import FieldLink.Proofs.Line.Traffic
import FieldLink.Wire

namespace FieldLink

/-! ## §1. Platforms that do not fail. -/

/-- On the states that hold a backlog it can be read; nothing is said about writing. -/
structure Readable {σ : Type} [OctetStream σ] (holds : Octets → σ → Prop) : Prop where
  /-- A read gives the next octets, at least one of them. -/
  read : ∀ {backlog : Octets} {state : σ} {limit : Nat}, holds backlog state → backlog ≠ [] →
    limit ≠ 0 → ∃ piece rest state', OctetStream.read limit state = (some piece, state')
      ∧ piece ≠ [] ∧ piece ++ rest = backlog ∧ holds rest state'
  /-- The wait of a read can be bounded. -/
  setTimeout : ∀ {backlog : Octets} {state : σ} (milliseconds : UInt32), holds backlog state →
    ∃ state', OctetStream.setTimeout milliseconds state = (true, state') ∧ holds backlog state'

/-- On the states that hold a backlog no call fails but a read beyond it. -/
structure Reliable {σ : Type} [OctetStream σ] (holds : Octets → σ → Prop) : Prop where
  /-- A read gives the next octets, at least one of them. -/
  read : ∀ {backlog : Octets} {state : σ} {limit : Nat}, holds backlog state → backlog ≠ [] →
    limit ≠ 0 → ∃ piece rest state', OctetStream.read limit state = (some piece, state')
      ∧ piece ≠ [] ∧ piece ++ rest = backlog ∧ holds rest state'
  /-- A write takes at least one octet. -/
  write : ∀ {backlog : Octets} {state : σ} {octets : Octets}, holds backlog state → octets ≠ [] →
    ∃ taken state', OctetStream.write octets state = (some (taken + 1), state')
      ∧ holds backlog state'
  /-- What was written can be pushed out. -/
  flush : ∀ {backlog : Octets} {state : σ}, holds backlog state →
    ∃ state', OctetStream.flush state = (true, state') ∧ holds backlog state'
  /-- The wait of a read can be bounded. -/
  setTimeout : ∀ {backlog : Octets} {state : σ} (milliseconds : UInt32), holds backlog state →
    ∃ state', OctetStream.setTimeout milliseconds state = (true, state') ∧ holds backlog state'

/-- Where no call fails, reads do not. -/
theorem Reliable.readable {σ : Type} [OctetStream σ] {holds : Octets → σ → Prop}
    (h : Reliable holds) : Readable holds where
  read := h.read
  setTimeout := h.setTimeout

/-- No call fails, and a read that asks for the whole backlog is given all of it. -/
structure Unbroken {σ : Type} [OctetStream σ] (holds : Octets → σ → Prop) : Prop
    extends Reliable holds where
  /-- One read is enough. -/
  whole : ∀ {backlog : Octets} {state : σ} {limit : Nat}, holds backlog state → backlog ≠ [] →
    backlog.length ≤ limit →
    ∃ state', OctetStream.read limit state = (some backlog, state') ∧ holds [] state'

namespace Line

variable {σ : Type} [OctetStream σ] {holds : Octets → σ → Prop}

/-! ## §2. Transfers. -/

/-- **One read takes the whole backlog.** -/
theorem read_unbroken (hunbroken : Unbroken holds) {backlog : Octets} {line : Line σ} {limit : Nat}
    (hholds : holds backlog line.platform) (hbacklog : backlog ≠ [])
    (hlimit : backlog.length ≤ limit) :
    ∃ line', line.read limit = (some backlog, line') ∧ holds [] line'.platform := by
  obtain ⟨state, hread, hstate⟩ := hunbroken.whole hholds hbacklog hlimit
  refine ⟨{ line with platform := state }.record (.received backlog), ?_, hstate⟩
  unfold read
  rw [hread]

theorem read_readable (hreadable : Readable holds) {backlog : Octets} {line : Line σ}
    {limit : Nat} (hholds : holds backlog line.platform) (hbacklog : backlog ≠ [])
    (hlimit : limit ≠ 0) :
    ∃ octet octets rest line', line.read limit = (some (octet :: octets), line')
      ∧ octet :: octets ++ rest = backlog ∧ holds rest line'.platform := by
  obtain ⟨piece, rest, state, hread, hpiece, hsplit, hrest⟩ :=
    hreadable.read hholds hbacklog hlimit
  cases piece with
  | nil => exact absurd rfl hpiece
  | cons octet octets =>
    refine ⟨octet, octets, rest,
      { line with platform := state }.record (.received (octet :: octets)), ?_, hsplit, hrest⟩
    unfold read
    rw [hread]

/-- A reader gets the octets that it needs off the front of the backlog. -/
theorem gather_readable (hreadable : Readable holds) {octets rest : Octets} {line : Line σ}
    (hholds : holds (octets ++ rest) line.platform) :
    ∃ line', line.gather octets.length = ⟨octets, none, line'⟩ ∧ holds rest line'.platform := by
  -- induction on how much is still needed: every read gives some of it
  induction hneed : octets.length using Nat.strongRecOn generalizing octets line with
  | ind need ih =>
    subst hneed
    by_cases hnil : octets = []
    · subst hnil
      exact ⟨line, gather_zero line, hholds⟩
    · have hneed : octets.length ≠ 0 := fun h => hnil (List.length_eq_zero_iff.mp h)
      obtain ⟨first, piece, behind, line₁, hread, hsplit, hbehind⟩ :=
        read_readable hreadable hholds (by simp [hnil]) hneed
      have hpiece : (first :: piece).length ≤ octets.length := length_read_le hread
      -- the piece is the front of what is needed
      obtain ⟨missing, rfl, rfl⟩ : ∃ missing, octets = first :: piece ++ missing
          ∧ behind = missing ++ rest := by
        rcases List.append_eq_append_iff.mp hsplit with hfront | ⟨surplus, heq, hrest⟩
        · exact hfront
        · have hnone : surplus = [] := by
            rw [heq, List.length_append] at hpiece
            exact List.length_eq_zero_iff.mp (by omega)
          rw [hnone, List.append_nil] at heq
          rw [hnone, List.nil_append] at hrest
          exact ⟨[], by rw [heq, List.append_nil], hrest.symm⟩
      have hshorter : missing.length < (first :: piece ++ missing).length := by
        simp only [List.length_append, List.length_cons]
        omega
      obtain ⟨line', hgather, hrest⟩ := ih missing.length hshorter hbehind rfl
      refine ⟨line', ?_, hrest⟩
      have hleft : (first :: piece ++ missing).length - (piece.length + 1) = missing.length := by
        simp
      rw [gather, if_neg hneed, hread]
      show (⟨first :: piece ++ (gather _ line₁).octets, (gather _ line₁).shortfall,
        (gather _ line₁).line⟩ : Gathered σ) = _
      rw [hleft, hgather]

/-- **A complete read takes exactly its octets off the backlog.** -/
theorem readExact_readable (hreadable : Readable holds) {octets rest : Octets} {line : Line σ}
    {need : Nat} (hneed : octets.length = need)
    (hholds : holds (octets ++ rest) line.platform) :
    ∃ line', line.readExact need = (.ok octets, line') ∧ line.Reads line' octets
      ∧ holds rest line'.platform := by
  obtain ⟨line', hgather, hrest⟩ := gather_readable hreadable hholds
  have hread : line.readExact need = (.ok octets, line') := by
    rw [← hneed]
    unfold readExact
    rw [hgather]
    rfl
  exact ⟨line', hread, reads_readExact_ok hread, hrest⟩

theorem write_reliable (hreliable : Reliable holds) {backlog octets : Octets} {line : Line σ}
    (hholds : holds backlog line.platform) (hoctets : octets ≠ []) :
    ∃ taken line', line.write octets = (some (taken + 1), line')
      ∧ holds backlog line'.platform := by
  obtain ⟨taken, state, hwrite, hstate⟩ := hreliable.write hholds hoctets
  refine ⟨taken, { line with platform := state }.record (.sent (octets.take (taken + 1))), ?_,
    hstate⟩
  unfold write
  rw [hwrite]

theorem offerAll_reliable (hreliable : Reliable holds) {backlog : Octets} (octets : Octets)
    {line : Line σ} (hholds : holds backlog line.platform) :
    ∃ line', line.offerAll octets = (true, line') ∧ holds backlog line'.platform := by
  fun_induction offerAll octets line with
  | case1 line => exact ⟨line, rfl, hholds⟩
  | case2 octet octets line line₁ hwrite =>
    obtain ⟨taken, line₂, htaken, -⟩ :=
      write_reliable hreliable hholds (List.cons_ne_nil octet octets)
    rw [htaken] at hwrite
    cases hwrite
  | case3 octet octets line line₁ hwrite =>
    obtain ⟨taken, line₂, htaken, -⟩ :=
      write_reliable hreliable hholds (List.cons_ne_nil octet octets)
    rw [htaken] at hwrite
    cases hwrite
  | case4 octet octets line taken line₁ hwrite ih =>
    obtain ⟨taken', line₂, htaken, hholds₂⟩ :=
      write_reliable hreliable hholds (List.cons_ne_nil octet octets)
    rw [htaken] at hwrite
    obtain ⟨-, rfl⟩ := Prod.mk.inj hwrite
    exact ih hholds₂

/-- **A complete write leaves the backlog as it is.** -/
theorem writeAll_reliable (hreliable : Reliable holds) {backlog : Octets} (packet : Octets)
    {line : Line σ} (hholds : holds backlog line.platform) :
    ∃ line', line.writeAll packet = (.ok (), line') ∧ holds backlog line'.platform := by
  obtain ⟨line₁, hoffer, hholds₁⟩ := offerAll_reliable hreliable packet hholds
  obtain ⟨state, hflush, hstate⟩ := hreliable.flush hholds₁
  refine ⟨{ line₁ with platform := state }.record (.flushed true), ?_, hstate⟩
  unfold writeAll flush
  rw [hoffer]
  dsimp only
  rw [hflush]

theorem setTimeout_readable (hreadable : Readable holds) {backlog : Octets}
    (milliseconds : UInt32) {line : Line σ} (hholds : holds backlog line.platform) :
    ∃ line', line.setTimeout milliseconds = (true, line') ∧ holds backlog line'.platform := by
  obtain ⟨state, hset, hstate⟩ := hreadable.setTimeout milliseconds hholds
  refine ⟨{ line with platform := state }.record (.timeoutSet milliseconds true), ?_, hstate⟩
  unfold setTimeout
  rw [hset]

end Line

/-! ## §3. Chunks of a script. -/

namespace Wire

/-- The script delivers these octets, in chunks that are not empty, and no call fails. -/
structure Delivers (octets : Octets) (wire : Wire) : Prop where
  chunked : ∃ chunks : List Octets, wire.inbound = chunks.map .chunk
    ∧ (∀ chunk ∈ chunks, chunk ≠ []) ∧ chunks.flatten = octets
  takes : wire.writeChunk ≠ some 0
  unbounded : wire.writeBudget = none
  flushes : wire.failsToFlush = false
  bounds : wire.failsToSetTimeout = false

/-- The script delivers these octets, in chunks that are not empty, and the wait for them can be
bounded. -/
structure Feeds (octets : Octets) (wire : Wire) : Prop where
  chunked : ∃ chunks : List Octets, wire.inbound = chunks.map .chunk
    ∧ (∀ chunk ∈ chunks, chunk ≠ []) ∧ chunks.flatten = octets
  bounds : wire.failsToSetTimeout = false

/-- What is put back of a chunk is a chunk again, unless nothing is left of it. -/
theorem putBack_chunks (rest : Octets) {chunks : List Octets}
    (hchunks : ∀ chunk ∈ chunks, chunk ≠ []) :
    ∃ chunks' : List Octets, putBack rest (chunks.map .chunk) = chunks'.map .chunk
      ∧ (∀ chunk ∈ chunks', chunk ≠ []) ∧ chunks'.flatten = rest ++ chunks.flatten := by
  cases rest with
  | nil => exact ⟨chunks, rfl, hchunks, rfl⟩
  | cons octet rest =>
    refine ⟨(octet :: rest) :: chunks, rfl, ?_, rfl⟩
    intro chunk hchunk
    rcases List.mem_cons.mp hchunk with rfl | hmem
    · exact List.cons_ne_nil octet rest
    · exact hchunks chunk hmem

theorem upTo_ne_nil {bound : Option Nat} {octets : Octets} (hbound : bound ≠ some 0)
    (hoctets : octets ≠ []) : upTo bound octets ≠ [] := by
  cases bound with
  | none => exact hoctets
  | some bound =>
    show octets.take bound ≠ []
    intro hnil
    rcases List.take_eq_nil_iff.mp hnil with rfl | hempty
    · exact hbound rfl
    · exact hoctets hempty

theorem read_chunk {wire : Wire} {chunk : Octets} {items : List Item}
    (h : wire.inbound = .chunk chunk :: items) (limit : Nat) :
    OctetStream.read limit wire
      = (some (chunk.take limit), { wire with inbound := putBack (chunk.drop limit) items }) := by
  show wire.read limit = _
  unfold read
  rw [h]

theorem take_ne_nil {chunk : Octets} {limit : Nat} (hchunk : chunk ≠ []) (hlimit : limit ≠ 0) :
    chunk.take limit ≠ [] := by
  intro hnil
  rcases List.take_eq_nil_iff.mp hnil with hzero | hempty
  · exact hlimit hzero
  · exact hchunk hempty

/-- A read takes the front of the first chunk, and chunks are left. -/
theorem read_chunked {backlog : Octets} {wire : Wire} {limit : Nat}
    (h : ∃ chunks : List Octets, wire.inbound = chunks.map .chunk
      ∧ (∀ chunk ∈ chunks, chunk ≠ []) ∧ chunks.flatten = backlog)
    (hbacklog : backlog ≠ []) (hlimit : limit ≠ 0) :
    ∃ piece rest items, OctetStream.read limit wire
        = (some piece, { wire with inbound := items })
      ∧ piece ≠ [] ∧ piece ++ rest = backlog ∧ ∃ chunks : List Octets,
        items = chunks.map .chunk ∧ (∀ chunk ∈ chunks, chunk ≠ []) ∧ chunks.flatten = rest := by
  obtain ⟨chunks, hinbound, hchunks, hflat⟩ := h
  cases chunks with
  | nil => exact absurd hflat.symm hbacklog
  | cons chunk chunks =>
    have hchunk : chunk ≠ [] := hchunks chunk List.mem_cons_self
    refine ⟨chunk.take limit, chunk.drop limit ++ chunks.flatten, _, read_chunk hinbound limit,
      take_ne_nil hchunk hlimit, ?_, putBack_chunks (chunk.drop limit)
        fun other hother => hchunks other (List.mem_cons_of_mem chunk hother)⟩
    rw [← List.append_assoc, List.take_append_drop]
    exact hflat

/-- **However the octets are split into chunks, the script can be read.** -/
theorem feeds_readable : Readable Feeds where
  read := by
    intro backlog wire limit h hbacklog hlimit
    obtain ⟨piece, rest, items, hread, hpiece, hsplit, hrest⟩ :=
      read_chunked h.chunked hbacklog hlimit
    exact ⟨piece, rest, _, hread, hpiece, hsplit, hrest, h.bounds⟩
  setTimeout := by
    intro backlog wire milliseconds h
    refine ⟨wire, ?_, h⟩
    show (!wire.failsToSetTimeout, wire) = _
    rw [h.bounds]
    rfl

namespace Delivers

variable {backlog : Octets} {wire : Wire}

theorem write_eq (h : Delivers backlog wire) {octets : Octets} (hoctets : octets ≠ []) :
    ∃ taken, OctetStream.write octets wire = (some (taken + 1), wire) := by
  have hsome : upTo wire.writeChunk octets ≠ [] := upTo_ne_nil h.takes hoctets
  obtain ⟨taken, htaken⟩ := Nat.exists_eq_add_one_of_ne_zero
    (fun hzero => hsome (List.length_eq_zero_iff.mp hzero))
  refine ⟨taken, ?_⟩
  show wire.write octets = _
  unfold write
  rw [h.unbounded]
  show (some (upTo wire.writeChunk octets).length, { wire with writeBudget := none }) = _
  rw [htaken, ← h.unbounded]

theorem flush_eq (h : Delivers backlog wire) : OctetStream.flush wire = (true, wire) := by
  show (!wire.failsToFlush, wire) = _
  rw [h.flushes]
  rfl

theorem setTimeout_eq (h : Delivers backlog wire) (milliseconds : UInt32) :
    OctetStream.setTimeout milliseconds wire = (true, wire) := by
  show (!wire.failsToSetTimeout, wire) = _
  rw [h.bounds]
  rfl

end Delivers

/-- **However the octets are split into chunks, the script is reliable.** -/
theorem delivers_reliable : Reliable Delivers where
  read := by
    intro backlog wire limit h hbacklog hlimit
    obtain ⟨hchunked, htakes, hunbounded, hflushes, hbounds⟩ := h
    obtain ⟨piece, rest, items, hread, hpiece, hsplit, hrest⟩ :=
      read_chunked hchunked hbacklog hlimit
    exact ⟨piece, rest, _, hread, hpiece, hsplit,
      ⟨hrest, htakes, hunbounded, hflushes, hbounds⟩⟩
  write := by
    intro backlog wire octets h hoctets
    obtain ⟨taken, hwrite⟩ := h.write_eq hoctets
    exact ⟨taken, wire, hwrite, h⟩
  flush := by
    intro backlog wire h
    exact ⟨wire, h.flush_eq, h⟩
  setTimeout := by
    intro backlog wire milliseconds h
    exact ⟨wire, h.setTimeout_eq milliseconds, h⟩

/-- The script delivers these octets in one chunk, unless there are none, and no call fails. -/
structure DeliversWhole (octets : Octets) (wire : Wire) : Prop extends Delivers octets wire where
  whole : wire.inbound = putBack octets []

/-- What is left of a chunk is again all that is delivered. -/
theorem DeliversWhole.read_eq {backlog : Octets} {wire : Wire} (h : DeliversWhole backlog wire)
    (hbacklog : backlog ≠ []) (limit : Nat) :
    ∃ wire', OctetStream.read limit wire = (some (backlog.take limit), wire')
      ∧ DeliversWhole (backlog.drop limit) wire' := by
  obtain ⟨⟨-, htakes, hunbounded, hflushes, hbounds⟩, hwhole⟩ := h
  cases backlog with
  | nil => exact absurd rfl hbacklog
  | cons octet backlog =>
    obtain ⟨chunks, hput, hchunks, hflat⟩ :=
      putBack_chunks ((octet :: backlog).drop limit) (List.forall_mem_nil fun chunk => chunk ≠ [])
    rw [List.flatten_nil, List.append_nil] at hflat
    exact ⟨_, read_chunk hwhole limit,
      ⟨⟨⟨chunks, hput, hchunks, hflat⟩, htakes, hunbounded, hflushes, hbounds⟩, rfl⟩⟩

/-- **A script of one chunk gives all of it to one read.** -/
theorem deliversWhole_unbroken : Unbroken DeliversWhole where
  read := by
    intro backlog wire limit h hbacklog hlimit
    obtain ⟨wire', hread, hrest⟩ := h.read_eq hbacklog limit
    exact ⟨_, _, wire', hread, take_ne_nil hbacklog hlimit, List.take_append_drop limit backlog,
      hrest⟩
  write := by
    intro backlog wire octets h hoctets
    obtain ⟨taken, hwrite⟩ := h.write_eq hoctets
    exact ⟨taken, wire, hwrite, h⟩
  flush := by
    intro backlog wire h
    exact ⟨wire, h.flush_eq, h⟩
  setTimeout := by
    intro backlog wire milliseconds h
    exact ⟨wire, h.setTimeout_eq milliseconds, h⟩
  whole := by
    intro backlog wire limit h hbacklog hlimit
    obtain ⟨wire', hread, hrest⟩ := h.read_eq hbacklog limit
    rw [List.take_of_length_le hlimit] at hread
    rw [List.drop_of_length_le hlimit] at hrest
    exact ⟨wire', hread, hrest⟩

end Wire

end FieldLink
