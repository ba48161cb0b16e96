/-
  FieldLink.Proofs.Line.Splitting
  ────────────────────────────────
  **HOW OCTETS ARE SPLIT INTO PIECES DOES NOT SHOW.**

  Two scripts are `Wire.Alike` if reads will find the same octets and the
  same refusals on them, in chunks of any size, and everything else about
  them is the same but for the size of the pieces that writes take.  What a
  whole read gives depends on the marks that are still unread, and what a
  whole write does depends on the budget:

      gather_collects   — a reader collects the marks in front
      offerAll_offers   — a writer delivers what the budget allows
      alike_simulation  — every transfer agrees on scripts that are alike

  The logs of two such transfers need not be the same, as pieces show in
  them.  They are the same octet by octet, and so they are once octets that
  go the same way one after another are joined:

      merged_octetwise  — joining undoes the splitting
-/
import FieldLink.Proofs.Line.Delivery
import FieldLink.Proofs.Line.Failure
import FieldLink.Proofs.Line.Simulation

namespace FieldLink

/-! ## §1. Logs without pieces. -/

namespace Event

/-- An event octet by octet. -/
def octetwise : Event → List Event
  | .received (octet :: octets) => (octet :: octets).map (.received [·])
  | .sent (octet :: octets) => (octet :: octets).map (.sent [·])
  | event => [event]

theorem octetwise_sent {octets : Octets} (h : octets ≠ []) :
    octetwise (.sent octets) = octets.map (.sent [·]) := by
  cases octets with
  | nil => exact absurd rfl h
  | cons octet octets => rfl

/-- Puts an event in front of others; octets join the ones behind them that go the same way. -/
def join : Event → List Event → List Event
  | .received (first :: front), .received (next :: back) :: events =>
    .received (first :: front ++ next :: back) :: events
  | .sent (first :: front), .sent (next :: back) :: events =>
    .sent (first :: front ++ next :: back) :: events
  | event, events => event :: events

theorem join_received (first next : UInt8) (back : Octets) (events : List Event) :
    join (.received [first]) (join (.received (next :: back)) events)
      = join (.received (first :: next :: back)) events := by
  rcases events with - | ⟨event, events⟩
  · rfl
  · cases event with
    | received octets => cases octets <;> rfl
    | _ => rfl

theorem join_sent (first next : UInt8) (back : Octets) (events : List Event) :
    join (.sent [first]) (join (.sent (next :: back)) events)
      = join (.sent (first :: next :: back)) events := by
  rcases events with - | ⟨event, events⟩
  · rfl
  · cases event with
    | sent octets => cases octets <;> rfl
    | _ => rfl

/-- Octets that join one to the next join to one event. -/
theorem foldr_pieces {event : Octets → Event}
    (hjoin : ∀ first next back events,
      join (event [first]) (join (event (next :: back)) events)
        = join (event (first :: next :: back)) events)
    (first : UInt8) (octets : Octets) (events : List Event) :
    ((first :: octets).map (event [·])).foldr join events
      = join (event (first :: octets)) events := by
  induction octets generalizing first with
  | nil => rfl
  | cons next octets ih =>
    rw [← hjoin, ← ih next]
    rfl

/-- The octets of an event join to the event. -/
theorem foldr_octetwise (event : Event) (events : List Event) :
    event.octetwise.foldr join events = event.join events := by
  cases event with
  | received octets =>
    cases octets with
    | nil => rfl
    | cons first octets => exact foldr_pieces join_received first octets events
  | sent octets =>
    cases octets with
    | nil => rfl
    | cons first octets => exact foldr_pieces join_sent first octets events
  | _ => rfl

end Event

namespace Traffic

/-- Events octet by octet. -/
def octetwise (events : List Event) : List Event := events.flatMap Event.octetwise

/-- Events with adjacent reads, and adjacent writes, made one. -/
def merged (events : List Event) : List Event := events.foldr Event.join []

@[simp] theorem octetwise_nil : octetwise [] = [] := rfl

@[simp] theorem octetwise_cons (event : Event) (events : List Event) :
    octetwise (event :: events) = event.octetwise ++ octetwise events := rfl

@[simp] theorem octetwise_append (before after : List Event) :
    octetwise (before ++ after) = octetwise before ++ octetwise after := by
  simp [octetwise]

/-- **Joining undoes the splitting.** -/
theorem merged_octetwise (events : List Event) : merged (octetwise events) = merged events := by
  induction events with
  | nil => rfl
  | cons event events ih =>
    rw [octetwise_cons]
    unfold merged at ih ⊢
    rw [List.foldr_append, ih, Event.foldr_octetwise]
    rfl

/-- Logs that are the same octet by octet are the same once they are joined. -/
theorem merged_eq {events events' : List Event} (h : octetwise events = octetwise events') :
    merged events = merged events' := by
  rw [← merged_octetwise events, h, merged_octetwise]

end Traffic

/-! ## §2. What is unread. -/

namespace Wire

/-- One octet of a script, or one refusal. -/
inductive Mark where
  /-- An octet. -/
  | octet (octet : UInt8)
  /-- One read that ends a reader. -/
  | stop (shortfall : Shortfall)
deriving DecidableEq

/-- The marks of an item; a chunk of no octets is a read that gives nothing. -/
def Item.marks : Item → List Mark
  | .chunk [] => [.stop .closed]
  | .chunk (octet :: octets) => (octet :: octets).map .octet
  | .ending => [.stop .closed]
  | .failure => [.stop .failed]

/-- The marks of a script of items. -/
def marks (items : List Item) : List Mark := items.flatMap Item.marks

/-- The octets and refusals that reads will still find, in order. -/
def unread (wire : Wire) : List Mark := marks wire.inbound

/-- The script with more items behind those that it has. -/
def arrive (items : List Item) (wire : Wire) : Wire :=
  { wire with inbound := wire.inbound ++ items }

/-- How a read ends a reader when nothing is left. -/
def idle (wire : Wire) : Shortfall := if wire.endsWhenIdle then .closed else .failed

@[simp] theorem marks_append (items items' : List Item) :
    marks (items ++ items') = marks items ++ marks items' := by
  simp [marks]

theorem marks_putBack (rest : Octets) (items : List Item) :
    marks (putBack rest items) = rest.map .octet ++ marks items := by
  cases rest with
  | nil => rfl
  | cons octet octets => rfl

end Wire

/-- The answer of a read that ends a reader. -/
def Shortfall.answer : Shortfall → Option Octets
  | .closed => some []
  | .failed => none

namespace Wire

/-- What one read of at most `limit` octets does, told by the unread marks. -/
inductive Reading (limit : Nat) (wire : Wire) : Option Octets × Wire → Prop where
  /-- Some octets are taken off the front. -/
  | piece {octet : UInt8} {octets : Octets} {items : List Item}
      (hle : (octet :: octets).length ≤ limit)
      (hunread : wire.unread = (octet :: octets).map .octet ++ marks items) :
      Reading limit wire (some (octet :: octets), { wire with inbound := items })
  /-- A refusal is taken off the front. -/
  | stop {shortfall : Shortfall} {items : List Item}
      (hunread : wire.unread = .stop shortfall :: marks items) :
      Reading limit wire (shortfall.answer, { wire with inbound := items })
  /-- Nothing is left. -/
  | idle (hunread : wire.unread = []) : Reading limit wire (wire.idle.answer, wire)

/-- One read takes octets or a refusal off the front. -/
theorem reading {limit : Nat} (hlimit : limit ≠ 0) (wire : Wire) :
    Reading limit wire (OctetStream.read limit wire) := by
  show Reading limit wire (wire.read limit)
  have hunread : wire.unread = marks wire.inbound := rfl
  unfold read
  rcases hinbound : wire.inbound with - | ⟨⟨octets⟩ | - | -, items⟩
  · rw [hinbound] at hunread
    have hanswer : (if wire.endsWhenIdle then some [] else none) = wire.idle.answer := by
      unfold idle
      cases wire.endsWhenIdle <;> rfl
    dsimp only
    rw [hanswer]
    exact .idle hunread
  · rw [hinbound] at hunread
    cases octets with
    | nil =>
      dsimp only
      rw [List.take_nil, List.drop_nil]
      exact @Reading.stop limit wire .closed items hunread
    | cons octet octets =>
      obtain ⟨first, piece, hpiece⟩ :=
        List.exists_cons_of_ne_nil (take_ne_nil (List.cons_ne_nil octet octets) hlimit)
      dsimp only
      rw [hpiece]
      refine .piece ?_ ?_
      · rw [← hpiece]
        exact List.length_take_le limit _
      · rw [marks_putBack, ← hpiece, ← List.append_assoc, ← List.map_append,
          List.take_append_drop]
        exact hunread
  · rw [hinbound] at hunread
    exact @Reading.stop limit wire .closed items hunread
  · rw [hinbound] at hunread
    exact @Reading.stop limit wire .failed items hunread

/-! ## §3. Whole reads. -/

/-- What a reader collects from the front of a script. -/
structure Collected where
  /-- The octets, first received first. -/
  octets : Octets
  /-- Why it stopped early, if it did. -/
  shortfall : Option Shortfall
  /-- What is left. -/
  rest : List Mark

/-- Collects octets mark by mark. -/
def collect (idle : Shortfall) : Nat → List Mark → Collected
  | 0, marks => ⟨[], none, marks⟩
  | _ + 1, [] => ⟨[], some idle, []⟩
  | _ + 1, .stop shortfall :: marks => ⟨[], some shortfall, marks⟩
  | need + 1, .octet octet :: marks =>
    let later := collect idle need marks
    { later with octets := octet :: later.octets }

/-- The events of a reader, octet by octet. -/
def Collected.events (collected : Collected) : List Event :=
  collected.octets.map (.received [·]) ++ (collected.shortfall.map Shortfall.event).toList

/-- Octets in front are collected first. -/
theorem collect_piece (idle : Shortfall) (piece : Octets) {need : Nat} (h : piece.length ≤ need)
    (marks : List Mark) :
    collect idle need (piece.map .octet ++ marks)
      = { collect idle (need - piece.length) marks with
          octets := piece ++ (collect idle (need - piece.length) marks).octets } := by
  induction piece generalizing need with
  | nil => rfl
  | cons octet piece ih =>
    cases need with
    | zero => exact absurd h (Nat.not_succ_le_zero _)
    | succ need =>
      rw [List.map_cons, List.cons_append, collect, ih (Nat.le_of_succ_le_succ h)]
      simp

theorem collect_stop (idle : Shortfall) {need : Nat} (h : need ≠ 0) (shortfall : Shortfall)
    (marks : List Mark) :
    collect idle need (.stop shortfall :: marks) = ⟨[], some shortfall, marks⟩ := by
  cases need with
  | zero => exact absurd rfl h
  | succ need => rfl

theorem collect_nil (idle : Shortfall) {need : Nat} (h : need ≠ 0) :
    collect idle need [] = ⟨[], some idle, []⟩ := by
  cases need with
  | zero => exact absurd rfl h
  | succ need => rfl

/-- A reader on this line did what is to be collected. -/
structure Collects (line : Line Wire) (collected : Collected) (gathered : Gathered Wire) :
    Prop where
  /-- These are its octets. -/
  octets : gathered.octets = collected.octets
  /-- This is why it stopped. -/
  shortfall : gathered.shortfall = collected.shortfall
  /-- The marks left are unread, and nothing else has changed. -/
  platform : ∃ inbound, gathered.line.platform = { line.platform with inbound := inbound }
    ∧ marks inbound = collected.rest
  /-- The log tells so octet by octet. -/
  events : ∃ events, gathered.line.events = line.events ++ events
    ∧ Traffic.octetwise events = collected.events

/-- A reader that was given some octets first has these in front of what it collects later. -/
theorem Collects.piece {line : Line Wire} {items : List Item} {octet : UInt8} {octets : Octets}
    {later : Collected} {gathered : Gathered Wire}
    (h : Collects ({ line with platform := { line.platform with inbound := items } }.record
      (.received (octet :: octets))) later gathered) :
    Collects line { later with octets := octet :: octets ++ later.octets }
      { gathered with octets := octet :: octets ++ gathered.octets } := by
  obtain ⟨hoctets, hshort, ⟨inbound, hplatform, hrest⟩, events, hlog, hevents⟩ := h
  refine ⟨congrArg (octet :: octets ++ ·) hoctets, hshort, ⟨inbound, hplatform, hrest⟩,
    .received (octet :: octets) :: events, ?_, ?_⟩
  · rw [List.append_cons]
    exact hlog.trans (congrArg (· ++ events) (Line.events_record _ _))
  · rw [Traffic.octetwise_cons, hevents]
    unfold Collected.events
    rw [List.map_append, List.append_assoc]
    rfl

end Wire

namespace Line

/-- A reader gives up at a read that ends it. -/
theorem gather_stop {σ : Type} [OctetStream σ] {need : Nat} (hneed : need ≠ 0) {line : Line σ}
    {shortfall : Shortfall} {state : σ}
    (h : OctetStream.read need line.platform = (shortfall.answer, state)) :
    line.gather need
      = ⟨[], some shortfall, { line with platform := state }.record shortfall.event⟩ := by
  rw [gather, if_neg hneed]
  unfold read
  rw [h]
  cases shortfall <;> rfl

/-- A reader goes on behind the octets that it was given. -/
theorem gather_piece {σ : Type} [OctetStream σ] {need : Nat} (hneed : need ≠ 0) {line : Line σ}
    {octet : UInt8} {octets : Octets} {state : σ}
    (h : OctetStream.read need line.platform = (some (octet :: octets), state)) :
    line.gather need
      = (let later := gather (need - (octet :: octets).length)
          ({ line with platform := state }.record (.received (octet :: octets)))
        { later with octets := octet :: octets ++ later.octets }) := by
  rw [gather, if_neg hneed]
  unfold read
  rw [h]
  rfl

/-- **A reader collects the marks in front**, in whatever chunks they come. -/
theorem gather_collects (need : Nat) (line : Line Wire) :
    Wire.Collects line (Wire.collect line.platform.idle need line.platform.unread)
      (line.gather need) := by
  -- induction on how much is still needed: every read that does not end the reader gives some
  induction need using Nat.strongRecOn generalizing line with
  | ind need ih =>
    by_cases hzero : need = 0
    · subst hzero
      rw [gather_zero]
      exact ⟨rfl, rfl, ⟨line.platform.inbound, rfl, rfl⟩, [], (List.append_nil _).symm, rfl⟩
    · have hreading := Wire.reading hzero line.platform
      generalize hread : OctetStream.read need line.platform = outcome at hreading
      cases hreading with
      | @piece octet octets items hle hunread =>
        have hpos : 0 < (octet :: octets).length := Nat.zero_lt_succ _
        rw [gather_piece hzero hread, hunread, Wire.collect_piece _ _ hle]
        have hlater := ih (need - (octet :: octets).length) (by omega)
          ({ line with platform := { line.platform with inbound := items } }.record
            (.received (octet :: octets)))
        exact hlater.piece
      | @stop shortfall items hunread =>
        rw [gather_stop hzero hread, hunread, Wire.collect_stop _ hzero]
        exact ⟨rfl, rfl, ⟨items, rfl, rfl⟩, [shortfall.event], events_record _ _,
          by cases shortfall <;> rfl⟩
      | idle hunread =>
        rw [gather_stop hzero hread, hunread, Wire.collect_nil _ hzero]
        exact ⟨rfl, rfl, ⟨line.platform.inbound, rfl, hunread⟩, [line.platform.idle.event],
          events_record _ _, by cases line.platform.idle <;> rfl⟩

end Line

/-! ## §4. Whole writes. -/

namespace Wire

/-- The octets that the budget allows. -/
def accepted (wire : Wire) (octets : Octets) : Octets := upTo wire.writeBudget octets

/-- The script with so many octets off the budget. -/
def spend (taken : Nat) (wire : Wire) : Wire :=
  { wire with writeBudget := wire.writeBudget.map (· - taken) }

/-- The event of an offer that meets a budget used up. -/
def refusal (wire : Wire) : Event := if wire.stallsWhenSpent then .sent [] else .writeFailed

@[simp] theorem spend_zero (wire : Wire) : wire.spend 0 = wire := by
  simp [spend]

theorem spend_add (taken more : Nat) (wire : Wire) :
    wire.spend (taken + more) = (wire.spend taken).spend more := by
  unfold spend
  cases wire.writeBudget with
  | none => rfl
  | some budget =>
    dsimp only [Option.map_some]
    rw [Nat.sub_add_eq]

@[simp] theorem accepted_nil (wire : Wire) : wire.accepted [] = [] := by
  unfold accepted
  cases wire.writeBudget <;> simp [upTo]

/-- What a budget allows begins with what is taken first. -/
theorem accepted_split {wire : Wire} {octets : Octets} {taken : Nat}
    (h : taken ≤ (wire.accepted octets).length) :
    wire.accepted octets
      = octets.take taken ++ (wire.spend taken).accepted (octets.drop taken) := by
  unfold accepted spend at *
  cases hbudget : wire.writeBudget with
  | none => exact (List.take_append_drop taken octets).symm
  | some budget =>
    rw [hbudget] at h
    have hle : taken ≤ budget := Nat.le_trans h (List.length_take_le budget octets)
    show octets.take budget = octets.take taken ++ (octets.drop taken).take (budget - taken)
    rw [← List.take_add, Nat.add_sub_cancel' hle]

/-- With the budget used up nothing is taken. -/
theorem write_spent {wire : Wire} (hspent : wire.writeBudget = some 0) (octets : Octets) :
    OctetStream.write octets wire = (if wire.stallsWhenSpent then some 0 else none, wire) := by
  show wire.write octets = _
  unfold write
  rw [if_pos hspent]

/-- Otherwise something is taken off the budget. -/
theorem write_taken {wire : Wire} (htakes : wire.writeChunk ≠ some 0)
    (hbudget : wire.writeBudget ≠ some 0) {octets : Octets} (hoctets : octets ≠ []) :
    ∃ taken, OctetStream.write octets wire
        = (some (taken + 1), wire.spend (taken + 1))
      ∧ taken + 1 ≤ (wire.accepted octets).length := by
  have hsome : upTo wire.writeBudget (upTo wire.writeChunk octets) ≠ [] :=
    upTo_ne_nil hbudget (upTo_ne_nil htakes hoctets)
  obtain ⟨taken, htaken⟩ := Nat.exists_eq_add_one_of_ne_zero
    (fun hzero => hsome (List.length_eq_zero_iff.mp hzero))
  refine ⟨taken, ?_, ?_⟩
  · show wire.write octets = _
    unfold write
    rw [if_neg hbudget]
    dsimp only
    rw [htaken]
    rfl
  · rw [← htaken]
    have hchunk := length_upTo_le wire.writeChunk octets
    unfold accepted
    cases wire.writeBudget with
    | none => exact hchunk
    | some budget =>
      show ((upTo wire.writeChunk octets).take budget).length ≤ (octets.take budget).length
      rw [List.length_take, List.length_take]
      omega

/-- A writer on this line offered these octets. -/
structure Offers (line : Line Wire) (octets : Octets) (outcome : Bool × Line Wire) : Prop where
  /-- It delivered all of them if the budget allows it. -/
  complete : outcome.1 = decide (line.platform.accepted octets = octets)
  /-- What was taken is off the budget, and nothing else has changed. -/
  platform : outcome.2.platform = line.platform.spend (line.platform.accepted octets).length
  /-- The log tells so octet by octet. -/
  events : ∃ events, outcome.2.events = line.events ++ events
    ∧ Traffic.octetwise events = (line.platform.accepted octets).map (.sent [·])
      ++ if line.platform.accepted octets = octets then [] else [line.platform.refusal]

/-- An offer of nothing is complete. -/
theorem Offers.nil (line : Line Wire) : Offers line [] (true, line) := by
  refine ⟨?_, ?_, [], (List.append_nil _).symm, ?_⟩
  · simp
  · simp
  · simp

/-- Against a budget that is used up nothing is delivered. -/
theorem Offers.spent {line : Line Wire} (hspent : line.platform.writeBudget = some 0)
    {octets : Octets} (hoctets : octets ≠ []) :
    Offers line octets (false, line.record line.platform.refusal) := by
  have haccepted : line.platform.accepted octets = [] := by
    unfold accepted
    rw [hspent]
    rfl
  refine ⟨?_, ?_, [line.platform.refusal], Line.events_record _ _, ?_⟩
  · rw [haccepted, decide_eq_false (Ne.symm hoctets)]
  · rw [haccepted]
    exact (spend_zero _).symm
  · rw [haccepted, if_neg (Ne.symm hoctets)]
    unfold refusal
    cases line.platform.stallsWhenSpent <;> rfl

/-- A writer that delivered some octets first goes on with the others and with what is left of the
budget. -/
theorem Offers.taken {line : Line Wire} {octets : Octets} {taken : Nat}
    (hle : taken + 1 ≤ (line.platform.accepted octets).length)
    (htaken : taken + 1 ≤ octets.length) {outcome : Bool × Line Wire}
    (h : Offers ({ line with platform := line.platform.spend (taken + 1) }.record
      (.sent (octets.take (taken + 1)))) (octets.drop (taken + 1)) outcome) :
    Offers line octets outcome := by
  have hsplit := accepted_split hle
  have hfront : (octets.take (taken + 1)).length = taken + 1 := List.length_take_of_le htaken
  have hsome : octets.take (taken + 1) ≠ [] :=
    List.ne_nil_of_length_eq_add_one hfront
  -- all of it is taken just if all of the rest is
  have hwhole : (line.platform.spend (taken + 1)).accepted (octets.drop (taken + 1))
        = octets.drop (taken + 1)
      ↔ line.platform.accepted octets = octets := by
    rw [← List.append_right_inj (octets.take (taken + 1)), List.take_append_drop, ← hsplit]
  obtain ⟨hcomplete, hplatform, events, hlog, hevents⟩ := h
  dsimp only [Line.platform_record] at hcomplete hplatform hevents
  refine ⟨?_, ?_, .sent (octets.take (taken + 1)) :: events, ?_, ?_⟩
  · rw [hcomplete]
    exact decide_eq_decide.mpr hwhole
  · rw [hplatform, ← spend_add, hsplit, List.length_append, hfront]
  · rw [List.append_cons]
    exact hlog.trans (congrArg (· ++ events) (Line.events_record _ _))
  · rw [Traffic.octetwise_cons, hevents, Event.octetwise_sent hsome, ← List.append_assoc,
      ← List.map_append, ← hsplit]
    simp only [hwhole]
    rfl

end Wire

namespace Line

/-- A writer gives up at an offer of which nothing is taken. -/
theorem offerAll_spent {line : Line Wire} (hspent : line.platform.writeBudget = some 0)
    {octets : Octets} (hoctets : octets ≠ []) :
    line.offerAll octets = (false, line.record line.platform.refusal) := by
  have hwrite := Wire.write_spent hspent octets
  cases octets with
  | nil => exact absurd rfl hoctets
  | cons octet octets =>
    rw [offerAll]
    unfold write Wire.refusal
    rw [hwrite]
    cases line.platform.stallsWhenSpent <;> rfl

/-- A writer goes on behind the octets that were taken. -/
theorem offerAll_taken {σ : Type} [OctetStream σ] {line : Line σ} {octets : Octets} {taken : Nat}
    {state : σ} (hoctets : octets ≠ [])
    (h : OctetStream.write octets line.platform = (some (taken + 1), state)) :
    line.offerAll octets = offerAll (octets.drop (taken + 1))
      ({ line with platform := state }.record (.sent (octets.take (taken + 1)))) := by
  cases octets with
  | nil => exact absurd rfl hoctets
  | cons octet octets =>
    rw [offerAll]
    unfold write
    rw [h]
    rfl

/-- **A writer delivers what the budget allows**, in pieces of any size. -/
theorem offerAll_offers (octets : Octets) (line : Line Wire)
    (htakes : line.platform.writeChunk ≠ some 0) :
    Wire.Offers line octets (line.offerAll octets) := by
  -- induction on how much is still offered: every offer that is not refused delivers some
  induction hlength : octets.length using Nat.strongRecOn generalizing octets line with
  | ind length ih =>
    by_cases hnil : octets = []
    · subst hnil
      rw [offerAll]
      exact .nil line
    · by_cases hspent : line.platform.writeBudget = some 0
      · rw [offerAll_spent hspent hnil]
        exact .spent hspent hnil
      · obtain ⟨taken, hwrite, hle⟩ := Wire.write_taken htakes hspent hnil
        have htaken : taken + 1 ≤ octets.length := OctetStream.write_le_length hwrite
        have hshorter : (octets.drop (taken + 1)).length < length := by
          rw [List.length_drop]
          omega
        rw [offerAll_taken hnil hwrite]
        exact .taken hle htaken (ih _ hshorter _ _ htakes rfl)

end Line

/-! ## §5. Scripts that are alike. -/

namespace Wire

/-- The same octets and refusals are unread, and all but the sizes of pieces is the same. -/
structure Alike (wire wire' : Wire) : Prop where
  /-- The same is unread. -/
  unread : wire.unread = wire'.unread
  /-- Nothing else differs but what one write takes. -/
  others : wire' = { wire with inbound := wire'.inbound, writeChunk := wire'.writeChunk }
  /-- Both take something at a time. -/
  takes : wire.writeChunk ≠ some 0 ∧ wire'.writeChunk ≠ some 0

namespace Alike

variable {wire wire' : Wire}

theorem idle_eq (h : wire.Alike wire') : wire.idle = wire'.idle := by
  rw [h.others]
  rfl

theorem accepted_eq (h : wire.Alike wire') (octets : Octets) :
    wire.accepted octets = wire'.accepted octets := by
  rw [h.others]
  rfl

theorem refusal_eq (h : wire.Alike wire') : wire.refusal = wire'.refusal := by
  rw [h.others]
  rfl

/-- What is unread may change in the same way. -/
theorem withInbound (h : wire.Alike wire') {items items' : List Item}
    (hitems : marks items = marks items') :
    Alike { wire with inbound := items } { wire' with inbound := items' } := by
  refine ⟨hitems, ?_, h.takes⟩
  rw [h.others]

/-- **The same octets may arrive**, whatever their chunks. -/
theorem arrive (h : wire.Alike wire') {items items' : List Item}
    (hitems : marks items = marks items') :
    (wire.arrive items).Alike (wire'.arrive items') := by
  refine h.withInbound ?_
  have hunread : marks wire.inbound = marks wire'.inbound := h.unread
  rw [marks_append, marks_append, hitems, hunread]

/-- As much may be taken off the budget. -/
theorem spend (h : wire.Alike wire') (taken : Nat) :
    (wire.spend taken).Alike (wire'.spend taken) := by
  refine ⟨h.unread, ?_, h.takes⟩
  rw [h.others]
  rfl

end Alike

end Wire

namespace Line

theorem startTls_script (line : Line Wire) :
    line.startTls = match line.platform.network.tls with
      | .absent => (.error .unsupported, line)
      | .works => (.ok (), line.record (.tlsStarted none))
      | .fails fault => (.error fault, line.record (.tlsStarted (some fault))) := by
  unfold startTls
  simp only [Dialer.hasTls, Dialer.startTls]
  cases line.platform.network.tls <;> rfl

/-- On scripts that are alike, the same happened since these two lines octet by octet. -/
structure Alike (start start' line line' : Line Wire) : Prop where
  /-- The scripts are alike. -/
  platform : line.platform.Alike line'.platform
  /-- Octet by octet, the logs have grown by the same. -/
  events : ∃ events events', line.events = start.events ++ events
    ∧ line'.events = start'.events ++ events'
    ∧ Traffic.octetwise events = Traffic.octetwise events'

namespace Alike

variable {start start' line line' : Line Wire}

/-- Nothing has happened yet. -/
theorem refl (h : start.platform.Alike start'.platform) : Alike start start' start start' :=
  ⟨h, [], [], (List.append_nil _).symm, (List.append_nil _).symm, rfl⟩

/-- The same happens next. -/
theorem extend (h : Alike start start' line line') {next next' : Line Wire}
    (hplatform : next.platform.Alike next'.platform) {events events' : List Event}
    (hlog : next.events = line.events ++ events) (hlog' : next'.events = line'.events ++ events')
    (hevents : Traffic.octetwise events = Traffic.octetwise events') :
    Alike start start' next next' := by
  obtain ⟨before, before', hbefore, hbefore', hsame⟩ := h.events
  refine ⟨hplatform, before ++ events, before' ++ events', ?_, ?_, ?_⟩
  · rw [hlog, hbefore, List.append_assoc]
  · rw [hlog', hbefore', List.append_assoc]
  · rw [Traffic.octetwise_append, Traffic.octetwise_append, hsame, hevents]

/-- The same event happens next. -/
theorem record (h : Alike start start' line line') (event : Event) :
    Alike start start' (line.record event) (line'.record event) :=
  h.extend h.platform (events_record line event) (events_record line' event) rfl

/-- **What has been added to the logs is the same** once it is joined. -/
theorem merged_eq (h : Alike start start' line line') :
    Traffic.merged (line.events.drop start.events.length)
      = Traffic.merged (line'.events.drop start'.events.length) := by
  obtain ⟨events, events', hlog, hlog', hsame⟩ := h.events
  rw [hlog, hlog', List.drop_left, List.drop_left]
  exact Traffic.merged_eq hsame

/-- A flag of the script is told and recorded. -/
theorem flagged (h : Alike start start' line line') {works works' : Bool} (hworks : works = works')
    (event : Bool → Event) :
    Agree (Alike start start') (works, line.record (event works))
      (works', line'.record (event works')) := by
  rw [← hworks]
  exact .intro works (h.record (event works))

/-- **A whole read** finds the same marks in front. -/
theorem readExact_agree (h : Alike start start' line line') (need : Nat) :
    Agree (Alike start start') (line.readExact need) (line'.readExact need) := by
  have hcollects := gather_collects need line
  rw [h.platform.unread, h.platform.idle_eq] at hcollects
  obtain ⟨hoctets, hshort, ⟨inbound, hplatform, hrest⟩, events, hlog, hevents⟩ := hcollects
  obtain ⟨hoctets', hshort', ⟨inbound', hplatform', hrest'⟩, events', hlog', hevents'⟩ :=
    gather_collects need line'
  have hresult : (line.gather need).result = (line'.gather need).result := by
    unfold Gathered.result
    rw [hoctets, hoctets', hshort, hshort']
  have halike : (line.gather need).line.platform.Alike (line'.gather need).line.platform := by
    rw [hplatform, hplatform']
    exact h.platform.withInbound (hrest.trans hrest'.symm)
  unfold readExact
  dsimp only
  rw [hresult]
  exact .intro _ (h.extend halike hlog hlog' (hevents.trans hevents'.symm))

/-- A writer meets the same budget. -/
theorem offerAll_agree (h : Alike start start' line line') (octets : Octets) :
    Agree (Alike start start') (line.offerAll octets) (line'.offerAll octets) := by
  have hoffers := offerAll_offers octets line h.platform.takes.1
  have hoffers' := offerAll_offers octets line' h.platform.takes.2
  generalize line.offerAll octets = outcome, line'.offerAll octets = outcome' at hoffers hoffers'
  obtain ⟨complete, rest⟩ := outcome
  obtain ⟨complete', rest'⟩ := outcome'
  obtain ⟨hcomplete, hplatform, events, hlog, hevents⟩ := hoffers
  obtain ⟨hcomplete', hplatform', events', hlog', hevents'⟩ := hoffers'
  rw [h.platform.accepted_eq octets] at hcomplete hplatform hevents
  rw [h.platform.refusal_eq] at hevents
  have halike : rest.platform.Alike rest'.platform := by
    rw [hplatform, hplatform']
    exact h.platform.spend _
  obtain rfl : complete = complete' := hcomplete.trans hcomplete'.symm
  exact .intro complete (h.extend halike hlog hlog' (hevents.trans hevents'.symm))

/-- **A whole write** is complete on both or on neither. -/
theorem writeAll_agree (h : Alike start start' line line') (octets : Octets) :
    Agree (Alike start start') (line.writeAll octets) (line'.writeAll octets) := by
  unfold writeAll
  obtain ⟨complete, rest, rest', hoffer, hoffer', hrest⟩ := h.offerAll_agree octets
  rw [hoffer, hoffer']
  cases complete with
  | false => exact .intro _ hrest
  | true =>
    have hflush : Agree (Alike start start') rest.flush rest'.flush :=
      hrest.flagged (by rw [hrest.platform.others]) .flushed
    obtain ⟨worked, rest, rest', hworked, hworked', hrest⟩ := hflush
    dsimp only
    rw [hworked, hworked']
    cases worked with
    | false => exact .intro _ hrest
    | true => exact .intro _ hrest

/-- Encryption is the network's to give. -/
theorem startTls_agree (h : Alike start start' line line') :
    Agree (Alike start start') line.startTls line'.startTls := by
  have hnetwork : line.platform.network = line'.platform.network := by rw [h.platform.others]
  rw [startTls_script, startTls_script, hnetwork]
  cases line'.platform.network.tls with
  | absent => exact .intro _ h
  | works => exact .intro _ (h.record _)
  | fails fault => exact .intro _ (h.record _)

end Alike

/-- **Every transfer agrees on scripts that are alike.** -/
theorem alike_simulation (start start' : Line Wire) :
    Simulation Wire.Alike (Alike start start') where
  record event h := h.record event
  change hchange h := ⟨hchange h.platform, h.events⟩
  setTimeout timeoutMs h := h.flagged (by rw [h.platform.others]) (.timeoutSet timeoutMs)
  readExact need h := h.readExact_agree need
  writeAll octets h := h.writeAll_agree octets
  close := by
    intro line line' h
    have hcloses : line.platform.failsToClose = line'.platform.failsToClose := by
      rw [h.platform.others]
    show Alike start start' (line.record (.closed !line.platform.failsToClose))
      (line'.record (.closed !line'.platform.failsToClose))
    rw [← hcloses]
    exact h.record _
  dial address h := h.flagged (by rw [h.platform.others]) (.dialed address)
  startTls h := h.startTls_agree

end Line

end FieldLink
