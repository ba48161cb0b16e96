/-
  FieldLink.Proofs.Line.Offering
  ────────────────────────────────
  **EVERY OCTET IS OFFERED UNTIL IT IS TAKEN, AND THEN NO MORE.**

  A write offers what is left of its octets again and again.  An `Offering`
  is what can come of this on any platform: pieces are taken off the front,
  until nothing is left or an offer is refused.  As no piece is empty there
  are no more offers than octets:

      offerAll_offering   — every writer makes such an offering
      Offering.sent_front — what is taken is a front part of the octets
      Offering.whole_iff  — it ends well just if all of them are taken
      writeAll_written    — the flush, the result and the cause of a failure
      offerAll_length     — how many octets a script takes
      written_in_order    — every write, on every platform
-/
import FieldLink.Proofs.Line.Splitting

namespace FieldLink

/-! ## §1. Offers. -/

/-- The event of an offer. -/
def Event.IsOffer : Event → Prop
  | .sent _ | .writeFailed => True
  | _ => False

/-- The ways in which octets can be offered, with the events, and whether all are taken. -/
inductive Offering : Octets → List Event → Bool → Prop where
  /-- Nothing is left to offer. -/
  | nothing : Offering [] [] true
  /-- The offer fails. -/
  | failed {octets : Octets} (hoctets : octets ≠ []) : Offering octets [.writeFailed] false
  /-- Nothing of the offer is taken. -/
  | stalled {octets : Octets} (hoctets : octets ≠ []) : Offering octets [.sent []] false
  /-- A piece is taken off the front, and the rest is offered. -/
  | piece {piece rest : Octets} {offers : List Event} {whole : Bool} (hpiece : piece ≠ [])
      (hrest : Offering rest offers whole) : Offering (piece ++ rest) (.sent piece :: offers) whole

namespace Offering

variable {octets : Octets} {offers : List Event} {whole : Bool}

theorem isOffer (h : Offering octets offers whole) : ∀ event ∈ offers, event.IsOffer := by
  induction h with
  | nothing => exact List.forall_mem_nil _
  | failed => exact List.forall_mem_singleton.mpr trivial
  | stalled => exact List.forall_mem_singleton.mpr trivial
  | piece hpiece hrest ih => exact List.forall_mem_cons.mpr ⟨trivial, ih⟩

/-- **There are no more offers than octets.** -/
theorem length_le (h : Offering octets offers whole) : offers.length ≤ octets.length := by
  induction h with
  | nothing => exact Nat.le_refl 0
  | failed hoctets => exact List.length_pos_iff.mpr hoctets
  | stalled hoctets => exact List.length_pos_iff.mpr hoctets
  | @piece piece rest offers whole hpiece hrest ih =>
    have hpos : 0 < piece.length := List.length_pos_iff.mpr hpiece
    rw [List.length_cons, List.length_append]
    omega

/-- **What is taken is a front part**: nothing is skipped, and nothing is taken twice. -/
theorem sent_front (h : Offering octets offers whole) : Traffic.sent offers <+: octets := by
  induction h with
  | nothing => exact List.prefix_rfl
  | failed => exact List.nil_prefix
  | stalled => exact List.nil_prefix
  | @piece piece rest offers whole hpiece hrest ih =>
    rw [Traffic.sent_cons]
    exact (List.prefix_append_right_inj piece).mpr ih

/-- **It ends well just if all is taken.** -/
theorem whole_iff (h : Offering octets offers whole) :
    whole = true ↔ Traffic.sent offers = octets := by
  induction h with
  | nothing => exact iff_of_true rfl rfl
  | failed hoctets => exact iff_of_false nofun (Ne.symm hoctets)
  | stalled hoctets => exact iff_of_false nofun (Ne.symm hoctets)
  | @piece piece rest offers whole hpiece hrest ih =>
    rw [ih, Traffic.sent_cons]
    exact (List.append_right_inj piece).symm

end Offering

namespace Line

/-- **Every writer makes such an offering**, whatever the platform is. -/
theorem offerAll_offering {σ : Type} [OctetStream σ] (octets : Octets) (line : Line σ) :
    ∃ offers, (line.offerAll octets).2.events = line.events ++ offers
      ∧ Offering octets offers (line.offerAll octets).1 := by
  fun_induction offerAll octets line with
  | case1 line => exact ⟨[], (List.append_nil _).symm, .nothing⟩
  | case2 octet octets line line₁ hwrite =>
    have hlog := events_write (octet :: octets) line
    rw [hwrite] at hlog
    exact ⟨[.writeFailed], hlog, .failed (List.cons_ne_nil octet octets)⟩
  | case3 octet octets line line₁ hwrite =>
    exact ⟨[.sent []], events_write_some hwrite, .stalled (List.cons_ne_nil octet octets)⟩
  | case4 octet octets line taken line₁ hwrite ih =>
    obtain ⟨offers, hlog, hoffering⟩ := ih
    refine ⟨.sent ((octet :: octets).take (taken + 1)) :: offers, ?_, ?_⟩
    · rw [hlog, events_write_some hwrite, List.append_assoc]
      rfl
    · have hpiece : (octet :: octets).take (taken + 1) ≠ [] := by simp
      have hsplit := Offering.piece hpiece hoffering
      rwa [show octets.drop taken = (octet :: octets).drop (taken + 1) from rfl,
        List.take_append_drop] at hsplit

end Line

/-! ## §2. Whole writes. -/

/-- A write of these octets made these offers and these flushes, and had this result. -/
structure Written (octets : Octets) (result : Except Fault Unit) (offers flushes : List Event) :
    Prop where
  /-- The offers are offers. -/
  isOffer : ∀ event ∈ offers, event.IsOffer
  /-- They come to an end. -/
  length_le : offers.length ≤ octets.length
  /-- What they took is a front part of the octets. -/
  sent_front : Traffic.sent offers <+: octets
  /-- If that is all, there is one flush. -/
  flush : Traffic.sent offers = octets → ∃ worked, flushes = [.flushed worked]
  /-- If not, there is none. -/
  noFlush : Traffic.sent offers ≠ octets → flushes = []
  /-- The write succeeds just if all was taken and pushed out. -/
  ok_iff : result = .ok () ↔ Traffic.sent offers = octets ∧ flushes = [.flushed true]
  /-- There is only one cause of a failure. -/
  fault_eq : ∀ fault, result = .error fault → fault = .writeFailed

/-- Where not all octets are taken, the writer gives up and flushes nothing. -/
theorem Offering.gives_up {octets : Octets} {offers : List Event}
    (h : Offering octets offers false) : Written octets (.error .writeFailed) offers [] := by
  have hpart : ¬ Traffic.sent offers = octets := mt h.whole_iff.mpr nofun
  exact {
    isOffer := h.isOffer
    length_le := h.length_le
    sent_front := h.sent_front
    flush := fun hall => absurd hall hpart
    noFlush := fun _ => rfl
    ok_iff := iff_of_false nofun fun hok => hpart hok.1
    fault_eq := fun fault hfault => (Except.error.inj hfault).symm }

/-- Where all are taken, the flush decides. -/
theorem Offering.flushes {octets : Octets} {offers : List Event} (h : Offering octets offers true)
    (worked : Bool) :
    Written octets (if worked then .ok () else .error .writeFailed) offers [.flushed worked] := by
  have hall : Traffic.sent offers = octets := h.whole_iff.mp rfl
  exact {
    isOffer := h.isOffer
    length_le := h.length_le
    sent_front := h.sent_front
    flush := fun _ => ⟨worked, rfl⟩
    noFlush := fun hpart => absurd hall hpart
    ok_iff := by cases worked <;> simp [hall]
    fault_eq := fun fault hfault => by cases worked <;> simp_all }

namespace Line

/-- **A writer flushes if all is taken, and gives up otherwise.** -/
theorem writeAll_written {σ : Type} [OctetStream σ] {octets : Octets} {line : Line σ}
    {offers : List Event} (hlog : (line.offerAll octets).2.events = line.events ++ offers)
    (hoffering : Offering octets offers (line.offerAll octets).1) :
    ∃ flushes, (line.writeAll octets).2.events = line.events ++ (offers ++ flushes)
      ∧ Written octets (line.writeAll octets).1 offers flushes := by
  unfold writeAll
  generalize line.offerAll octets = outcome at hlog hoffering
  obtain ⟨whole, next⟩ := outcome
  dsimp only at hlog hoffering
  cases whole with
  | false =>
    rw [← List.append_nil offers] at hlog
    exact ⟨[], hlog, hoffering.gives_up⟩
  | true =>
    have hflush := events_flush next
    rw [hlog, List.append_assoc] at hflush
    dsimp only
    generalize next.flush = outcome at hflush
    obtain ⟨worked, final⟩ := outcome
    refine ⟨[.flushed worked], ?_, ?_⟩
    · cases worked <;> exact hflush
    · have hwritten := hoffering.flushes worked
      cases worked <;> exact hwritten

end Line

/-! ## §3. On a script. -/

namespace Traffic

/-- Octets that are sent one at a time are sent. -/
theorem sent_map_octet (octets : Octets) : sent (octets.map (.sent [·])) = octets := by
  induction octets with
  | nil => rfl
  | cons octet octets ih =>
    rw [List.map_cons, sent_cons, ih]
    rfl

/-- What is sent is the same octet by octet. -/
theorem sent_octetwise (events : List Event) : sent (octetwise events) = sent events := by
  induction events with
  | nil => rfl
  | cons event events ih =>
    rw [octetwise_cons, sent_append, ih, sent_cons]
    refine congrArg (· ++ sent events) ?_
    cases event with
    | sent octets =>
      cases octets with
      | nil => rfl
      | cons octet octets => exact sent_map_octet (octet :: octets)
    | received octets =>
      cases octets with
      | nil => rfl
      | cons octet octets =>
        refine sent_asides fun event hevent => ?_
        obtain ⟨octet, -, rfl⟩ := List.mem_map.mp hevent
        trivial
    | _ => rfl

end Traffic

namespace Wire

/-- How many of so many octets a script takes: all that the budget allows, if it takes some at a
time. -/
def intake (wire : Wire) (count : Nat) : Nat :=
  if wire.writeChunk = some 0 then 0
  else
    match wire.writeBudget with
    | none => count
    | some budget => min count budget

theorem length_accepted {wire : Wire} (h : wire.writeChunk ≠ some 0) (octets : Octets) :
    (wire.accepted octets).length = wire.intake octets.length := by
  unfold accepted intake
  rw [if_neg h]
  cases wire.writeBudget with
  | none => rfl
  | some budget => exact List.length_take.trans (Nat.min_comm budget octets.length)

/-- Where nothing is taken at a time, no write changes the script. -/
theorem write_blocked {wire : Wire} (h : wire.writeChunk = some 0) (octets : Octets) :
    OctetStream.write octets wire = (none, wire)
      ∨ OctetStream.write octets wire = (some 0, wire) := by
  show wire.write octets = _ ∨ wire.write octets = _
  unfold write
  split
  · cases wire.stallsWhenSpent with
    | false => exact .inl rfl
    | true => exact .inr rfl
  · have hnothing : (upTo wire.writeBudget (upTo wire.writeChunk octets)).length = 0 := by
      rw [h]
      exact congrArg List.length (accepted_nil wire)
    dsimp only
    rw [hnothing]
    exact .inr (congrArg (Prod.mk (some 0)) (spend_zero wire))

end Wire

namespace Line

/-- **How many octets a script takes.** -/
theorem offerAll_length {octets : Octets} {line : Line Wire} {offers : List Event}
    (hlog : (line.offerAll octets).2.events = line.events ++ offers) :
    (Traffic.sent offers).length = line.platform.intake octets.length := by
  by_cases hchunk : line.platform.writeChunk = some 0
  · rw [Wire.intake, if_pos hchunk, List.length_eq_zero_iff]
    cases octets with
    | nil =>
      rw [offerAll] at hlog
      rw [List.self_eq_append_right.mp hlog]
      rfl
    | cons octet octets =>
      -- the first offer is refused
      rw [offerAll] at hlog
      unfold write at hlog
      rcases Wire.write_blocked hchunk (octet :: octets) with hwrite | hwrite
      · rw [hwrite] at hlog
        rw [← List.append_cancel_left ((events_record line .writeFailed).symm.trans hlog)]
        rfl
      · rw [hwrite] at hlog
        rw [← List.append_cancel_left ((events_record line (.sent [])).symm.trans hlog)]
        rfl
  · obtain ⟨-, -, events, hevents, hoctets⟩ := offerAll_offers octets line hchunk
    obtain rfl : offers = events := List.append_cancel_left (hlog.symm.trans hevents)
    have hrefusal : Traffic.sent (if line.platform.accepted octets = octets then []
        else [line.platform.refusal]) = [] := by
      unfold Wire.refusal
      split
      · rfl
      · cases line.platform.stallsWhenSpent <;> rfl
    rw [← Wire.length_accepted hchunk, ← Traffic.sent_octetwise, hoctets, Traffic.sent_append,
      Traffic.sent_map_octet, hrefusal, List.append_nil]

end Line

/-! ## §4. Every write. -/

/-- **A write sends its octets once and in order.**  On every platform it ends after at most as many
offers as there are octets.  What these took is a front part of the octets; just if it is all of
them, and also if there are none, one flush follows.  The write succeeds just if all was taken and
the flush worked, and every failure is one of writing.  A script takes as many octets as its budget
allows, however few at a time, and none if it takes none at a time. -/
theorem written_in_order :
    (∀ {σ : Type} [OctetStream σ] (octets : Octets) (line : Line σ), ∃ offers flushes,
      (line.writeAll octets).2.events = line.events ++ (offers ++ flushes)
        ∧ Written octets (line.writeAll octets).1 offers flushes)
      ∧ ∀ (octets : Octets) (line : Line Wire), ∃ offers flushes,
        (line.writeAll octets).2.events = line.events ++ (offers ++ flushes)
          ∧ Written octets (line.writeAll octets).1 offers flushes
          ∧ (Traffic.sent offers).length = line.platform.intake octets.length := by
  constructor
  · intro σ _ octets line
    obtain ⟨offers, hlog, hoffering⟩ := line.offerAll_offering octets
    obtain ⟨flushes, hwritten⟩ := Line.writeAll_written hlog hoffering
    exact ⟨offers, flushes, hwritten⟩
  · intro octets line
    obtain ⟨offers, hlog, hoffering⟩ := line.offerAll_offering octets
    obtain ⟨flushes, hevents, hwritten⟩ := Line.writeAll_written hlog hoffering
    exact ⟨offers, flushes, hevents, hwritten, Line.offerAll_length hlog⟩

namespace Specimen

/-- A line that takes two octets at a time, and five in all. -/
def slow : Line Wire := ⟨{ writeChunk := some 2, writeBudget := some 5 }, #[]⟩

end Specimen

/-- Five of seven octets are taken and nothing is flushed; no octets are flushed at once. -/
theorem written_in_order_specimen :
    ((Specimen.slow.writeAll [1, 2, 3, 4, 5, 6, 7]).1 = .error .writeFailed
        ∧ Traffic.sent (Specimen.slow.writeAll [1, 2, 3, 4, 5, 6, 7]).2.events = [1, 2, 3, 4, 5]
        ∧ .flushed true ∉ (Specimen.slow.writeAll [1, 2, 3, 4, 5, 6, 7]).2.events)
      ∧ ∃ worked, (Specimen.slow.writeAll []).2.events = [.flushed worked] := by
  have hscript := written_in_order.2
  constructor
  · obtain ⟨offers, flushes, hlog, hwritten, hlength⟩ :=
      hscript [1, 2, 3, 4, 5, 6, 7] Specimen.slow
    have hsent : Traffic.sent offers = [1, 2, 3, 4, 5] := by
      rw [List.prefix_iff_eq_take.mp hwritten.sent_front, hlength]
      rfl
    have hpart : Traffic.sent offers ≠ [1, 2, 3, 4, 5, 6, 7] := by
      rw [hsent]
      decide
    rw [hwritten.noFlush hpart, List.append_nil] at hlog
    have hlog : (Specimen.slow.writeAll [1, 2, 3, 4, 5, 6, 7]).2.events = offers := hlog
    refine ⟨?_, by rw [hlog, hsent], ?_⟩
    · cases hresult : (Specimen.slow.writeAll [1, 2, 3, 4, 5, 6, 7]).1 with
      | error fault => rw [hwritten.fault_eq fault hresult]
      | ok => exact absurd (hwritten.ok_iff.mp hresult).1 hpart
    · rw [hlog]
      exact fun hmem => hwritten.isOffer _ hmem
  · obtain ⟨offers, flushes, hlog, hwritten, -⟩ := hscript [] Specimen.slow
    have hnone : offers = [] := List.length_eq_zero_iff.mp (Nat.le_zero.mp hwritten.length_le)
    obtain ⟨worked, rfl⟩ := hwritten.flush (by rw [hnone]; rfl)
    rw [hnone] at hlog
    exact ⟨worked, hlog⟩

end FieldLink
