/-
  FieldLink.Proofs.Line.Filling
  ────────────────────────────────
  **A BUFFER IS FILLED WITH WHAT STANDS IN FRONT.**

  A reader fills its buffer from the front, piece by piece.  On a script it
  gets the octets that stand before the first read which gives nothing or
  fails, as many as the buffer has room for; what it does not take stays
  where it is, and what it does not fill keeps its old octets:

      fill_eq           — filling a buffer in place is one complete read
      gather_enough     — the octets wanted stand in front
      gather_wanting    — they do not, and the reader stops where they end
      filled_from_front — the buffer, the result and the rest of the script
-/
import FieldLink.Proofs.Line.Splitting

namespace FieldLink

/-! ## §1. In place. -/

/-- What a reader reports that has these octets so far and stops for this, or for nothing. -/
def Shortfall.verdict (part : Octets) : Option Shortfall → Except Fault Unit
  | none => .ok ()
  | some shortfall => .error (shortfall.fault part)

theorem Gathered.result_eq {σ : Type} (gathered : Gathered σ) :
    gathered.result
      = (Shortfall.verdict gathered.octets gathered.shortfall).map fun _ => gathered.octets := by
  unfold Gathered.result
  cases gathered.shortfall with
  | none => rfl
  | some shortfall => cases shortfall <;> rfl

namespace Line

section Platform

variable {σ : Type} [OctetStream σ]

/-- From a place on, a buffer is filled with what a reader collects that needs the rest of it. -/
theorem fillFrom_eq {place : Nat} {buffer : Octets} (hplace : place ≤ buffer.length)
    (line : Line σ) :
    line.fillFrom place buffer
      = (let gathered := line.gather (buffer.length - place)
        ⟨Shortfall.verdict (buffer.take place ++ gathered.octets) gathered.shortfall,
          Octets.overwrite place gathered.octets buffer, gathered.line⟩) := by
  -- the reader and the loop make the same reads, so the induction goes along the loop
  fun_induction fillFrom place buffer line with
  | case1 place buffer line hfull =>
    have hnone : buffer.length - place = 0 := by omega
    rw [hnone, gather_zero]
    simp [Shortfall.verdict, Octets.overwrite]
  | case2 place buffer line hroom line' hread =>
    have hneed : buffer.length - place ≠ 0 := by omega
    have hempty : buffer.take place = [] ↔ place = 0 := by
      rw [List.take_eq_nil_iff]
      exact or_iff_left fun hnil => hroom (by rw [hnil]; exact Nat.zero_le place)
    rw [gather, if_neg hneed, hread]
    simp [Shortfall.verdict, Shortfall.fault, Octets.overwrite, hempty]
  | case3 place buffer line hroom line' hread =>
    have hneed : buffer.length - place ≠ 0 := by omega
    rw [gather, if_neg hneed, hread]
    simp [Shortfall.verdict, Shortfall.fault, Octets.overwrite]
  | case4 place buffer line hroom octet octets line' hread ih =>
    have hneed : buffer.length - place ≠ 0 := by omega
    have hpiece : (octet :: octets).length ≤ buffer.length - place := length_read_le hread
    rw [List.length_cons] at hpiece
    have hfits : place + (octet :: octets).length ≤ buffer.length := by
      rw [List.length_cons]
      omega
    have hgather : line.gather (buffer.length - place)
        = (let later := gather (buffer.length - (place + (octets.length + 1))) line'
          { later with octets := octet :: octets ++ later.octets }) := by
      rw [gather, if_neg hneed, hread, Nat.sub_add_eq]
    have hlength := Octets.length_overwrite hfits
    have hfront := Octets.take_overwrite hplace (octet :: octets)
    have hback := Octets.overwrite_overwrite hplace (octet :: octets)
    rw [List.length_cons] at hfront hback
    rw [ih (by rw [hlength]; exact hfits), hlength, hgather]
    dsimp only
    rw [hfront, hback, List.append_assoc]

/-- **Filling a buffer in place is one complete read**: it makes the same calls and reports the
same, and what was read stands in front of the old octets. -/
theorem fill_eq (buffer : Octets) (line : Line σ) :
    line.fill buffer
      = (let gathered := line.gather buffer.length
        ⟨Shortfall.verdict gathered.octets gathered.shortfall,
          gathered.octets ++ buffer.drop gathered.octets.length, gathered.line⟩) := by
  unfold fill
  rw [fillFrom_eq (Nat.zero_le _)]
  simp

end Platform

end Line

/-! ## §2. What a script has for a reader. -/

namespace Wire

/-- The octets that reads find before one that gives nothing or fails. -/
def available : List Item → Octets
  | .chunk (octet :: octets) :: items => octet :: octets ++ available items
  | _ => []

/-- The script behind these octets. -/
def obstacle : List Item → List Item
  | .chunk (_ :: _) :: items => obstacle items
  | items => items

/-- How the read there ends a reader: with nothing left it is the idle platform that ends it. -/
def halt (idle : Shortfall) : List Item → Shortfall
  | [] => idle
  | .chunk _ :: _ | .ending :: _ => .closed
  | .failure :: _ => .failed

/-- The script without its first octets; what is left of a chunk stays in front. -/
def behind : Nat → List Item → List Item
  | count + 1, .chunk octets :: items =>
    putBack (octets.drop (count + 1)) (behind (count + 1 - octets.length) items)
  | _, items => items

@[simp] theorem behind_zero (items : List Item) : behind 0 items = items := by
  rw [behind]
  exact nofun

theorem behind_chunk {count : Nat} (h : count ≠ 0) (octets : Octets) (items : List Item) :
    behind count (.chunk octets :: items)
      = putBack (octets.drop count) (behind (count - octets.length) items) := by
  cases count with
  | zero => exact absurd rfl h
  | succ count => rw [behind]

/-- **Nothing is lost or invented**: the octets in front, and behind them what is left. -/
theorem marks_behind {items : List Item} {count : Nat} (h : count ≤ (available items).length) :
    marks items = ((available items).take count).map .octet ++ marks (behind count items) := by
  fun_induction available items generalizing count with
  | case1 octet octets items ih =>
    by_cases hzero : count = 0
    · subst hzero
      rw [behind_zero]
      rfl
    · have hrest : count - (octet :: octets).length ≤ (available items).length := by
        rw [List.length_append] at h
        omega
      have hmarks : marks (.chunk (octet :: octets) :: items)
          = (octet :: octets).map .octet ++ marks items := rfl
      rw [hmarks, ih hrest, behind_chunk hzero, marks_putBack, List.take_append, List.map_append]
      by_cases hwithin : count ≤ (octet :: octets).length
      · -- the octets end within this chunk
        rw [Nat.sub_eq_zero_of_le hwithin, List.take_zero, List.map_nil, List.append_nil,
          List.nil_append, behind_zero, ← List.append_assoc, ← List.map_append,
          List.take_append_drop]
      · -- this chunk is taken whole
        rw [List.take_of_length_le (Nat.le_of_not_le hwithin),
          List.drop_eq_nil_of_le (Nat.le_of_not_le hwithin), List.append_assoc]
        rfl
  | case2 items hstopped =>
    obtain rfl := Nat.le_zero.mp h
    rw [behind_zero]
    rfl

/-- The obstacle stands behind all that is available. -/
theorem marks_obstacle (items : List Item) :
    marks items = (available items).map .octet ++ marks (obstacle items) := by
  fun_induction available items with
  | case1 octet octets items ih =>
    rw [obstacle, List.map_append, List.append_assoc, ← ih]
    rfl
  | case2 items hstopped =>
    rw [obstacle]
    · rfl
    · exact hstopped

/-- The obstacle itself begins with no octet. -/
theorem head_obstacle (items : List Item) (octet : UInt8) :
    (marks (obstacle items)).head? ≠ some (.octet octet) := by
  fun_induction obstacle items with
  | case1 first octets items ih => exact ih
  | case2 items hstopped =>
    rcases items with - | ⟨⟨- | ⟨first, octets⟩⟩ | - | -, items⟩
    · exact nofun
    · exact nofun
    · exact absurd rfl (hstopped first octets items)
    · exact nofun
    · exact nofun

/-- A read of what is no more available ends the reader. -/
theorem read_obstacle {wire : Wire} (h : available wire.inbound = []) (limit : Nat) :
    OctetStream.read limit wire
      = ((halt wire.idle wire.inbound).answer, { wire with inbound := wire.inbound.tail }) := by
  show wire.read limit = _
  unfold read
  rcases hinbound : wire.inbound with - | ⟨⟨octets⟩ | - | -, items⟩
  · -- the script is empty, and stays so
    have hsame : { wire with inbound := [] } = wire := by rw [← hinbound]
    have hanswer : (if wire.endsWhenIdle then some [] else none) = wire.idle.answer := by
      unfold idle
      cases wire.endsWhenIdle <;> rfl
    dsimp only
    rw [hanswer, List.tail_nil, hsame]
    rfl
  · cases octets with
    | nil =>
      dsimp only
      rw [List.take_nil, List.drop_nil]
      rfl
    | cons octet octets =>
      rw [hinbound] at h
      cases h
  · rfl
  · rfl

end Wire

/-! ## §3. What a reader does with it. -/

namespace Line

/-- A reader that needs more than the first chunk takes it whole and goes on. -/
theorem gather_chunk {need : Nat} {line : Line Wire} {octet : UInt8} {octets : Octets}
    {items : List Wire.Item} (hinbound : line.platform.inbound = .chunk (octet :: octets) :: items)
    (hle : (octet :: octets).length ≤ need) :
    line.gather need
      = (let later := gather (need - (octet :: octets).length)
          ({ line with platform := { line.platform with inbound := items } }.record
            (.received (octet :: octets)))
        { later with octets := octet :: octets ++ later.octets }) := by
  have hread := Wire.read_chunk hinbound need
  rw [List.take_of_length_le hle, List.drop_eq_nil_of_le hle] at hread
  exact gather_piece (by rw [List.length_cons] at hle; omega) hread

/-- A reader that needs no more than the first chunk takes a part of it and puts the rest back. -/
theorem gather_within {need : Nat} (hneed : need ≠ 0) {line : Line Wire} {octet : UInt8}
    {octets : Octets} {items : List Wire.Item}
    (hinbound : line.platform.inbound = .chunk (octet :: octets) :: items)
    (hle : need ≤ (octet :: octets).length) :
    ∃ log, line.gather need = ⟨(octet :: octets).take need, none,
      ⟨{ line.platform with
          inbound := Wire.putBack ((octet :: octets).drop need) items }, log⟩⟩ := by
  obtain ⟨first, piece, hpiece⟩ :=
    List.exists_cons_of_ne_nil (Wire.take_ne_nil (List.cons_ne_nil octet octets) hneed)
  have hread := Wire.read_chunk hinbound need
  rw [hpiece] at hread
  have hlength : (first :: piece).length = need := by
    rw [← hpiece, List.length_take_of_le hle]
  rw [gather_piece hneed hread, hlength, Nat.sub_self, gather_zero, hpiece]
  dsimp only
  rw [List.append_nil]
  exact ⟨_, rfl⟩

/-- **A reader that needs no more than there is** gets it, and leaves the rest. -/
theorem gather_enough {items : List Wire.Item} {need : Nat} {line : Line Wire}
    (hinbound : line.platform.inbound = items) (hneed : need ≤ (Wire.available items).length) :
    ∃ log, line.gather need = ⟨(Wire.available items).take need, none,
      ⟨{ line.platform with inbound := Wire.behind need items }, log⟩⟩ := by
  -- induction on the script: all chunks but the last are taken whole
  fun_induction Wire.available items generalizing need line with
  | case1 octet octets items ih =>
    by_cases hzero : need = 0
    · subst hzero
      rw [gather_zero, Wire.behind_zero, ← hinbound]
      exact ⟨line.log, rfl⟩
    · rw [Wire.behind_chunk hzero, List.take_append]
      by_cases hwithin : need ≤ (octet :: octets).length
      · rw [Nat.sub_eq_zero_of_le hwithin, List.take_zero, Wire.behind_zero, List.append_nil]
        exact gather_within hzero hinbound hwithin
      · have hwhole : (octet :: octets).length ≤ need := Nat.le_of_not_le hwithin
        have hrest : need - (octet :: octets).length ≤ (Wire.available items).length := by
          rw [List.length_append] at hneed
          omega
        rw [gather_chunk hinbound hwhole, List.take_of_length_le hwhole,
          List.drop_eq_nil_of_le hwhole]
        obtain ⟨log, hlater⟩ := @ih _
          ({ line with platform := { line.platform with inbound := items } }.record
            (.received (octet :: octets))) rfl hrest
        rw [hlater]
        exact ⟨log, rfl⟩
  | case2 items hstopped =>
    obtain rfl := Nat.le_zero.mp hneed
    rw [gather_zero, Wire.behind_zero, ← hinbound]
    exact ⟨line.log, rfl⟩

/-- **A reader that needs more than there is** gets all of it and meets the obstacle. -/
theorem gather_wanting {items : List Wire.Item} {need : Nat} {line : Line Wire}
    (hinbound : line.platform.inbound = items) (hneed : (Wire.available items).length < need) :
    ∃ log, line.gather need
      = ⟨Wire.available items, some (Wire.halt line.platform.idle (Wire.obstacle items)),
        ⟨{ line.platform with inbound := (Wire.obstacle items).tail }, log⟩⟩ := by
  -- induction on the script: all its chunks in front are taken whole
  fun_induction Wire.available items generalizing need line with
  | case1 octet octets items ih =>
    rw [List.length_append] at hneed
    have hwhole : (octet :: octets).length ≤ need := by omega
    have hrest : (Wire.available items).length < need - (octet :: octets).length := by omega
    rw [gather_chunk hinbound hwhole, Wire.obstacle]
    obtain ⟨log, hlater⟩ := @ih _
      ({ line with platform := { line.platform with inbound := items } }.record
        (.received (octet :: octets))) rfl hrest
    rw [hlater]
    exact ⟨log, rfl⟩
  | case2 items hstopped =>
    have hnothing : Wire.available line.platform.inbound = [] := by
      rw [hinbound, Wire.available]
      exact hstopped
    have hpos : need ≠ 0 := Nat.ne_of_gt hneed
    have hread := Wire.read_obstacle hnothing need
    rw [gather_stop hpos hread, hinbound, Wire.obstacle]
    · exact ⟨_, rfl⟩
    · exact hstopped

/-- A buffer that has room for no more than there is becomes full. -/
theorem fill_enough {buffer : Octets} {line : Line Wire}
    (h : buffer.length ≤ (Wire.available line.platform.inbound).length) :
    ∃ log, line.fill buffer = ⟨.ok (), (Wire.available line.platform.inbound).take buffer.length,
      ⟨{ line.platform with inbound := Wire.behind buffer.length line.platform.inbound }, log⟩⟩ := by
  obtain ⟨log, hgather⟩ := gather_enough rfl h
  refine ⟨log, ?_⟩
  rw [fill_eq, hgather]
  dsimp only
  rw [List.length_take_of_le h, List.drop_length, List.append_nil]
  rfl

/-- A buffer that has room for more keeps what it held behind all that there is. -/
theorem fill_wanting {buffer : Octets} {line : Line Wire}
    (h : (Wire.available line.platform.inbound).length < buffer.length) :
    ∃ log, line.fill buffer
      = ⟨.error ((Wire.halt line.platform.idle (Wire.obstacle line.platform.inbound)).fault
          (Wire.available line.platform.inbound)),
        Wire.available line.platform.inbound
          ++ buffer.drop (Wire.available line.platform.inbound).length,
        ⟨{ line.platform with inbound := (Wire.obstacle line.platform.inbound).tail }, log⟩⟩ := by
  obtain ⟨log, hgather⟩ := gather_wanting rfl h
  refine ⟨log, ?_⟩
  rw [fill_eq, hgather]
  rfl

/-- While a buffer is filled nothing happens but reads, and they give what goes into it. -/
theorem reads_fill (buffer : Octets) (line : Line Wire) :
    line.Reads (line.fill buffer).line
      ((Wire.available line.platform.inbound).take buffer.length) := by
  have hreads := reads_gather buffer.length line
  rw [fill_eq]
  rcases Nat.lt_or_ge (Wire.available line.platform.inbound).length buffer.length
    with hwanting | henough
  · obtain ⟨log, hgather⟩ := gather_wanting rfl hwanting
    rw [List.take_of_length_le (Nat.le_of_lt hwanting)]
    rw [hgather] at hreads ⊢
    exact hreads
  · obtain ⟨log, hgather⟩ := gather_enough rfl henough
    rw [hgather] at hreads ⊢
    exact hreads

/-- A complete read is a buffer that was filled, of which nothing is told unless it is full. -/
theorem readExact_fill {σ : Type} [OctetStream σ] (buffer : Octets) (line : Line σ) :
    line.readExact buffer.length
      = ((line.fill buffer).result.map fun _ => (line.fill buffer).buffer,
        (line.fill buffer).line) := by
  rw [fill_eq]
  unfold readExact
  dsimp only
  rw [Gathered.result_eq]
  cases hshort : (line.gather buffer.length).shortfall with
  | none =>
    rw [length_gather hshort, List.drop_length, List.append_nil]
  | some shortfall => rfl

end Line

/-! ## §4. Every script and every buffer. -/

/-- **A buffer is filled from the front of the script**, and with nothing else.  Its first octets
become the ones that stand before the first read that gives nothing or fails, as many of them as it
has room for; the others stay as they were.  It is full just if these are enough, and then what is
left of the script is unread, octets and refusals in their order.  If they are not enough, the read
behind them is told: one that gave nothing has closed the stream, and one that failed came too late
before the first octet and broke the stream after it.  An empty buffer is full without a read. -/
theorem filled_from_front (buffer : Octets) (line : Line Wire) :
    let wire := line.platform
    let octets := Wire.available wire.inbound
    let rest := Wire.obstacle wire.inbound
    let count := min buffer.length octets.length
    let filled := line.fill buffer
    (wire.unread = octets.map .octet ++ Wire.marks rest
        ∧ ∀ octet, (Wire.marks rest).head? ≠ some (.octet octet))
      ∧ (filled.buffer = octets.take count ++ buffer.drop count
        ∧ line.Reads filled.line (octets.take count))
      ∧ (filled.result = .ok () ↔ count = buffer.length)
      ∧ (count = buffer.length →
        filled.line.platform = { wire with inbound := Wire.behind count wire.inbound }
          ∧ wire.unread = filled.buffer.map .octet ++ filled.line.platform.unread)
      ∧ (count < buffer.length →
        filled.result = .error (match Wire.halt wire.idle rest with
            | .closed => .connectionClosed
            | .failed => if count = 0 then .timedOut else .readFailed)
          ∧ filled.line.platform = { wire with inbound := rest.tail })
      ∧ (buffer = [] → filled = ⟨.ok (), [], line⟩)
      ∧ line.readExact buffer.length
        = (filled.result.map fun _ => filled.buffer, filled.line) := by
  intro wire octets rest count filled
  have hmarks : wire.unread = octets.map .octet ++ Wire.marks rest :=
    Wire.marks_obstacle wire.inbound
  have hhead := Wire.head_obstacle wire.inbound
  have hreads : line.Reads filled.line (octets.take count) := by
    rw [← List.take_eq_take_min]
    exact Line.reads_fill buffer line
  have hempty : buffer = [] → filled = ⟨.ok (), [], line⟩ := by
    rintro rfl
    show line.fill [] = _
    rw [Line.fill_eq, List.length_nil, Line.gather_zero]
    rfl
  have hexact := Line.readExact_fill buffer line
  rcases Nat.lt_or_ge octets.length buffer.length with hwanting | henough
  · -- all that there is goes into the buffer
    have hcount : count = octets.length := Nat.min_eq_right (Nat.le_of_lt hwanting)
    have hnotFull : ¬ count = buffer.length := by omega
    obtain ⟨log, hfilled⟩ := Line.fill_wanting hwanting
    have hresult : filled.result = .error ((Wire.halt wire.idle rest).fault octets) :=
      congrArg Filled.result hfilled
    have hnothing : count = 0 ↔ octets = [] := by rw [hcount, List.length_eq_zero_iff]
    refine ⟨⟨hmarks, hhead⟩, ⟨?_, hreads⟩, ?_, ?_, ?_, hempty, hexact⟩
    · rw [hcount, List.take_length]
      exact congrArg Filled.buffer hfilled
    · rw [hresult]
      exact iff_of_false nofun hnotFull
    · exact fun hfull => absurd hfull hnotFull
    · refine fun _ => ⟨?_, congrArg (·.line.platform) hfilled⟩
      rw [hresult]
      cases Wire.halt wire.idle rest with
      | closed => rfl
      | failed => simp only [Shortfall.fault, hnothing]
  · -- the buffer becomes full
    have hcount : count = buffer.length := Nat.min_eq_left henough
    obtain ⟨log, hfilled⟩ := Line.fill_enough henough
    have hbuffer : filled.buffer = octets.take count := by
      rw [hcount]
      exact congrArg Filled.buffer hfilled
    have hplatform : filled.line.platform
        = { wire with inbound := Wire.behind count wire.inbound } := by
      rw [hcount]
      exact congrArg (·.line.platform) hfilled
    refine ⟨⟨hmarks, hhead⟩, ⟨?_, hreads⟩, ?_, ?_, ?_, hempty, hexact⟩
    · rw [hbuffer, hcount, List.drop_length, List.append_nil]
    · exact iff_of_true (congrArg Filled.result hfilled) hcount
    · refine fun _ => ⟨hplatform, ?_⟩
      rw [hbuffer, hplatform]
      exact Wire.marks_behind (Nat.min_le_right _ _)
    · exact fun hless => absurd hcount (Nat.ne_of_lt hless)

namespace Specimen

/-- A line on which reads find these items. -/
def playing (items : List Wire.Item) : Line Wire := ⟨{ inbound := items }, #[]⟩

end Specimen

/-- A buffer of four takes two chunks but for the last octet, which is next, and then a read fails
in the middle of a buffer; one that fails in front of a buffer is too late, and one that gives
nothing has closed the stream. -/
theorem filled_from_front_specimen :
    let full := (Specimen.playing [.chunk [1, 2], .chunk [3, 4, 5], .failure]).fill [0, 0, 0, 0]
    let broken := (Specimen.playing [.chunk [5], .failure]).fill [0, 0]
    let late := (Specimen.playing [.failure, .chunk [6]]).fill [0]
    let closed := (Specimen.playing [.chunk [6], .chunk [], .chunk [7]]).fill [0, 0]
    (full.result = .ok () ∧ full.buffer = [1, 2, 3, 4]
        ∧ full.line.platform.inbound = [.chunk [5], .failure])
      ∧ (broken.result = .error .readFailed ∧ broken.buffer = [5, 0])
      ∧ (late.result = .error .timedOut ∧ late.buffer = [0]
        ∧ late.line.platform.inbound = [.chunk [6]])
      ∧ (closed.result = .error .connectionClosed ∧ closed.buffer = [6, 0]
        ∧ closed.line.platform.inbound = [.chunk [7]]) := by
  obtain ⟨-, ⟨hfull, -⟩, hok, hrest, -⟩ := filled_from_front [0, 0, 0, 0]
    (Specimen.playing [.chunk [1, 2], .chunk [3, 4, 5], .failure])
  obtain ⟨-, ⟨hbroken, -⟩, -, -, hbreak, -⟩ := filled_from_front [0, 0]
    (Specimen.playing [.chunk [5], .failure])
  obtain ⟨-, ⟨hlate, -⟩, -, -, htime, -⟩ := filled_from_front [0]
    (Specimen.playing [.failure, .chunk [6]])
  obtain ⟨-, ⟨hclosed, -⟩, -, -, hclose, -⟩ := filled_from_front [0, 0]
    (Specimen.playing [.chunk [6], .chunk [], .chunk [7]])
  refine ⟨⟨hok.mpr rfl, hfull, ?_⟩, ⟨(hbreak (by decide)).1, hbroken⟩,
    ⟨(htime (by decide)).1, hlate, ?_⟩, ⟨(hclose (by decide)).1, hclosed, ?_⟩⟩
  · exact congrArg Wire.inbound (hrest rfl).1
  · exact congrArg Wire.inbound (htime (by decide)).2
  · exact congrArg Wire.inbound (hclose (by decide)).2

end FieldLink
