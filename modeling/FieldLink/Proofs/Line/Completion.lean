/-
  FieldLink.Proofs.Line.Completion
  ────────────────────────────────
  **WHAT A PLATFORM MUST DO FOR A TRANSFER TO SUCCEED.**

  Whether a transfer succeeds is decided by the platform alone.  `Takes`
  and `Gives` say, state by state, that a platform takes a packet and that
  it gives an answer, in pieces of any size of which none is empty.  They
  are exact, in both directions:

      writeAll_takes, writeAll_of_takes
        — a write succeeds just if its packet is taken and pushed out
      readExact_gives, readExact_of_gives
        — a read gives octets just if the platform gives them

  On a script they are conditions on what is still unread and on what is
  left of the budget:

      Wire.takes_iff — the budget allows the whole packet
      Wire.gives_iff — the octets stand in front of what is unread
-/
import FieldLink.Proofs.Line.Splitting

namespace FieldLink

/-! ## §1. What a platform takes and gives. -/

section Platform

variable {σ : Type} [OctetStream σ]

/-- The platform takes these octets and nothing else, some of them each time. -/
inductive Takes : Octets → σ → σ → Prop where
  /-- There is nothing to take. -/
  | nothing (state : σ) : Takes [] state state
  /-- Some of the octets are taken, and then the others. -/
  | piece {octets : Octets} {taken : Nat} {state next final : σ} (hoctets : octets ≠ [])
      (hwrite : OctetStream.write octets state = (some (taken + 1), next))
      (hrest : Takes (octets.drop (taken + 1)) next final) : Takes octets state final

/-- To one who asks for as many, the platform gives these octets, some of them each time. -/
inductive Gives : Octets → σ → σ → Prop where
  /-- There is nothing to give. -/
  | nothing (state : σ) : Gives [] state state
  /-- The first octets are given, and then the others. -/
  | piece {octet : UInt8} {octets rest : Octets} {state next final : σ}
      (hread : OctetStream.read (octet :: octets ++ rest).length state
        = (some (octet :: octets), next))
      (hrest : Gives rest next final) : Gives (octet :: octets ++ rest) state final

namespace Line

/-! ## §2. Writing. -/

/-- What an offer does to the platform. -/
theorem platform_write {octets : Octets} {line line' : Line σ} {taken : Nat}
    (h : line.write octets = (some taken, line')) :
    OctetStream.write octets line.platform = (some taken, line'.platform) := by
  unfold write at h
  split at h
  · next state hwrite =>
    obtain ⟨htaken, rfl⟩ := Prod.mk.inj h
    rw [hwrite, htaken]
    rfl
  · cases h

/-- What a read does to the platform. -/
theorem platform_read {limit : Nat} {line line' : Line σ} {octets : Octets}
    (h : line.read limit = (some octets, line')) :
    OctetStream.read limit line.platform = (some octets, line'.platform) := by
  unfold read at h
  split at h
  · next state hread =>
    obtain ⟨hoctets, rfl⟩ := Prod.mk.inj h
    rw [hread, hoctets]
    rfl
  · cases h

theorem offerAll_takes {octets : Octets} {line line' : Line σ}
    (h : line.offerAll octets = (true, line')) : Takes octets line.platform line'.platform := by
  fun_induction offerAll octets line with
  | case1 line =>
    obtain ⟨-, rfl⟩ := Prod.mk.inj h
    exact .nothing _
  | case2 => cases h
  | case3 => cases h
  | case4 octet octets line taken line₁ hwrite ih =>
    exact .piece (List.cons_ne_nil octet octets) (platform_write hwrite) (ih h)

theorem offerAll_of_takes {octets : Octets} {state final : σ} (h : Takes octets state final)
    (line : Line σ) (hstate : line.platform = state) :
    ∃ line', line.offerAll octets = (true, line') ∧ line'.platform = final := by
  induction h generalizing line with
  | nothing state => exact ⟨line, by rw [offerAll], hstate⟩
  | @piece octets taken state next final hoctets hwrite hrest ih =>
    rw [← hstate] at hwrite
    rw [offerAll_taken hoctets hwrite]
    exact ih _ rfl

/-- **A write that succeeds was taken and pushed out.** -/
theorem writeAll_takes {packet : Octets} {line line' : Line σ}
    (h : line.writeAll packet = (.ok (), line')) :
    ∃ taken, Takes packet line.platform taken
      ∧ OctetStream.flush taken = (true, line'.platform) := by
  unfold writeAll at h
  split at h
  · cases h
  · next line₁ hoffer =>
    refine ⟨line₁.platform, offerAll_takes hoffer, ?_⟩
    unfold flush at h
    split at h
    · cases h
    · next line₂ hflush =>
      obtain ⟨-, rfl⟩ := Prod.mk.inj h
      obtain ⟨hworked, rfl⟩ := Prod.mk.inj hflush
      exact Prod.ext hworked rfl

/-- **What is taken and pushed out is a write that succeeds.** -/
theorem writeAll_of_takes {packet : Octets} {line : Line σ} {taken final : σ}
    (htakes : Takes packet line.platform taken) (hflush : OctetStream.flush taken = (true, final)) :
    ∃ line', line.writeAll packet = (.ok (), line') ∧ line'.platform = final := by
  obtain ⟨line₁, hoffer, rfl⟩ := offerAll_of_takes htakes line rfl
  refine ⟨{ line₁ with platform := final }.record (.flushed true), ?_, rfl⟩
  unfold writeAll flush
  rw [hoffer]
  dsimp only
  rw [hflush]

/-! ## §3. Reading. -/

theorem gather_gives {need : Nat} {line : Line σ} (h : (line.gather need).shortfall = none) :
    Gives (line.gather need).octets line.platform (line.gather need).line.platform := by
  -- induction on how much is still needed: every read gives some of it
  induction need using Nat.strongRecOn generalizing line with
  | ind need ih =>
    have hlength : (line.gather need).octets.length = need := length_gather h
    rw [gather] at h hlength ⊢
    split
    · exact .nothing _
    · next hpos =>
      rw [if_neg hpos] at h hlength
      split at h
      · cases h
      · cases h
      · next octet octets line₁ hread =>
        have hrest := ih (need - (octets.length + 1)) (by omega) h
        rw [hread] at hlength
        refine .piece ?_ hrest
        rw [hlength]
        exact platform_read hread

/-- **A read that succeeds was given its octets.** -/
theorem readExact_gives {need : Nat} {line line' : Line σ} {octets : Octets}
    (h : line.readExact need = (.ok octets, line')) :
    Gives octets line.platform line'.platform := by
  obtain ⟨hresult, rfl⟩ := Prod.mk.inj h
  unfold Gathered.result at hresult
  split at hresult
  · next hnone =>
    obtain rfl := Except.ok.inj hresult
    exact gather_gives hnone
  · cases hresult
  · cases hresult

theorem gather_of_gives {octets : Octets} {state final : σ} (h : Gives octets state final)
    (line : Line σ) (hstate : line.platform = state) :
    ∃ line', line.gather octets.length = ⟨octets, none, line'⟩ ∧ line'.platform = final := by
  induction h generalizing line with
  | nothing state => exact ⟨line, gather_zero line, hstate⟩
  | @piece octet octets rest state next final hread hrest ih =>
    rw [← hstate] at hread
    obtain ⟨line', hgather, hfinal⟩ :=
      ih ({ line with platform := next }.record (.received (octet :: octets))) rfl
    refine ⟨line', ?_, hfinal⟩
    have hleft : (octet :: octets ++ rest).length - (octet :: octets).length = rest.length := by
      rw [List.length_append, Nat.add_sub_cancel_left]
    rw [gather_piece (by simp) hread, hleft, hgather]

/-- **What is given is a read that succeeds.** -/
theorem readExact_of_gives {octets : Octets} {line : Line σ} {final : σ}
    (h : Gives octets line.platform final) {need : Nat} (hneed : octets.length = need) :
    ∃ line', line.readExact need = (.ok octets, line') ∧ line'.platform = final := by
  obtain ⟨line', hgather, hfinal⟩ := gather_of_gives h line rfl
  refine ⟨line', ?_, hfinal⟩
  unfold readExact
  rw [← hneed, hgather]
  rfl

end Line

end Platform

/-! ## §4. Scripts. -/

namespace Wire

/-- **A script takes what its budget allows.** -/
theorem takes_iff {wire final : Wire} (htakes : wire.writeChunk ≠ some 0) (octets : Octets) :
    Takes octets wire final
      ↔ wire.accepted octets = octets ∧ final = wire.spend octets.length := by
  obtain ⟨hcomplete, hplatform, -⟩ := Line.offerAll_offers octets ⟨wire, #[]⟩ htakes
  dsimp only at hcomplete hplatform
  constructor
  · intro h
    obtain ⟨line', hoffer, rfl⟩ := Line.offerAll_of_takes h ⟨wire, #[]⟩ rfl
    rw [hoffer] at hcomplete hplatform
    have hall := of_decide_eq_true hcomplete.symm
    rw [hall] at hplatform
    exact ⟨hall, hplatform⟩
  · rintro ⟨hall, rfl⟩
    rw [hall] at hcomplete hplatform
    rw [decide_eq_true rfl] at hcomplete
    rw [← hplatform]
    exact Line.offerAll_takes (Prod.ext hcomplete rfl)

/-- What a script gave stood in front of what was unread, and the rest still is. -/
theorem unread_of_gives {octets : Octets} {wire final : Wire} (h : Gives octets wire final) :
    wire.unread = octets.map .octet ++ final.unread := by
  induction h with
  | nothing wire => rfl
  | @piece octet octets rest wire next final hread hrest ih =>
    have hreading := reading (show (octet :: octets ++ rest).length ≠ 0 by simp) wire
    generalize OctetStream.read (octet :: octets ++ rest).length wire = outcome at hread hreading
    cases hreading with
    | piece hle hunread =>
      cases hread
      rw [hunread, List.map_append, List.append_assoc, ← ih]
      rfl
    | @stop shortfall => cases shortfall <;> cases hread
    | idle => cases hidle : wire.idle <;> rw [hidle] at hread <;> cases hread

/-- **A script gives the octets in front of what is unread**, in whatever chunks they come. -/
theorem gives_iff {wire : Wire} {octets : Octets} {rest : List Mark} :
    (∃ final, Gives octets wire final ∧ final.unread = rest)
      ↔ wire.unread = octets.map .octet ++ rest := by
  constructor
  · rintro ⟨final, hgives, rfl⟩
    exact unread_of_gives hgives
  · intro hunread
    obtain ⟨hoctets, hshort, ⟨inbound, hplatform, hrest⟩, -⟩ :=
      Line.gather_collects octets.length ⟨wire, #[]⟩
    have hcollected : collect wire.idle octets.length wire.unread = ⟨octets, none, rest⟩ := by
      rw [hunread, collect_piece _ _ (Nat.le_refl _), Nat.sub_self, collect, List.append_nil]
    rw [hcollected] at hoctets hshort hrest
    have hgives := Line.gather_gives hshort
    rw [hoctets] at hgives
    refine ⟨_, hgives, ?_⟩
    rw [hplatform]
    exact hrest

end Wire

end FieldLink
