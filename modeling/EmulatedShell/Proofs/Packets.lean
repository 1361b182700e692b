import EmulatedShell.Proofs.Calls
import EmulatedShell.Proofs.Flags
import EmulatedShell.Proofs.Text.Integer
import EmulatedShell.Proofs.Text.Split

namespace EmulatedShell

/-- How many packets tokens ask for: the number that the token after the first flag starts with, but
at most a hundred, and four if there is no positive one. -/
def packetsAsked (args : List String) : Nat :=
  match (tokenAfter "-c" args).bind fun token => leadingInteger token.toList with
  | some number => if 0 < number then min number.toNat 100 else 4
  | none => 4

/-- The number that a source gives after some other draws, stretched to lie between two bounds. -/
def RandomSource.ahead (source : RandomSource) (low high : Float) (draws : Nat) : Float :=
  low + (high - low) * source.values (source.drawn + draws)

/-- The line about one packet, with its number. -/
def packetLine (sequence : Nat) (time : Float) : String :=
  "64 bytes from 142.250.191.14: icmp_seq=" ++ toString sequence ++ " ttl=55 time=" ++
    fixedPoint 3 time ++ " ms"

/-- The line that counts packets. -/
def packetTotals (count : Nat) : String :=
  toString count ++ " packets transmitted, " ++ toString count ++
    " packets received, 0.0% packet loss"

/-- The line that sums up the times of packets. -/
def packetTimes (average : Float) : String :=
  "round-trip min/avg/max/stddev = 10.234/" ++ fixedPoint 3 average ++ "/15.456/1.234 ms"

/-- The lines about packets to a host: after those that name it there is one for each packet in
turn. -/
def packetLines (host : String) (count : Nat) (time : Nat → Float) (average : Float) :
    List String :=
  split '\n' ("PING " ++ host ++ " (142.250.191.14): 56 data bytes") ++
    ((List.range count).map fun sequence => packetLine sequence (time sequence)) ++
    [""] ++ split '\n' ("--- " ++ host ++ " ping statistics ---") ++
    [packetTotals count, packetTimes average]

theorem packetsAsked_bounds (args : List String) :
    1 ≤ packetsAsked args ∧ packetsAsked args ≤ 100 := by
  unfold packetsAsked
  split
  next number _ =>
    split <;> omega
  next => omega

theorem packetCount_eq {c : Command} : packetCount c = packetsAsked c.args := by
  have asked : c.intFlag "-c" 4 =
      ((tokenAfter "-c" c.args).bind fun token => leadingInteger token.toList).getD 4 :=
    c.intFlag_eq "-c" 4
  rw [packetCount, asked, packetsAsked, packetLimit]
  cases (tokenAfter "-c" c.args).bind fun token => leadingInteger token.toList with
  | none => rfl
  | some number =>
    dsimp only [Option.getD_some]
    by_cases positive : 0 < number
    · rw [if_pos positive, if_neg (by omega)]
    · rw [if_neg positive, if_pos (by omega)]

namespace RandomSource

theorem between_eq (low high : Float) (source : RandomSource) : source.between low high =
    (source.ahead low high 0, { source with drawn := source.drawn + 1 }) := rfl

/-- Each of several draws takes the next number of the source. -/
theorem manyBetween_eq (low high : Float) (count : Nat) (source : RandomSource) :
    source.manyBetween low high count =
      ((List.range count).map (source.ahead low high),
        { source with drawn := source.drawn + count }) := by
  induction count generalizing source with
  | zero => rfl
  | succ count ih =>
    have later : ahead { source with drawn := source.drawn + 1 } low high =
        fun draws => source.ahead low high (draws + 1) := by
      funext draws
      simp only [ahead, Nat.add_assoc, Nat.add_comm 1]
    simp only [manyBetween, between_eq, ih, later, List.range_succ_eq_map, List.map_cons,
      List.map_map, Function.comp_def, Nat.succ_eq_add_one, Nat.add_assoc, Nat.add_comm 1]

end RandomSource

theorem not_mem_toList_append {c : Char} {front back : String} :
    c ∉ (front ++ back).toList ↔ c ∉ front.toList ∧ c ∉ back.toList := by
  rw [String.toList_append, List.mem_append, not_or]

theorem lineFeed_not_mem_toString (n : Nat) : '\n' ∉ (toString n).toList :=
  not_mem_toString (by decide) n

theorem lineFeed_not_mem_placeText (places units : Nat) :
    '\n' ∉ (placeText places units).toList := by
  have zeros : ∀ count, '\n' ∉ (replicate count '0').toList := by
    intro count
    rw [replicate, String.toList_ofList, List.mem_replicate]
    exact fun zero => absurd zero.2 (by decide)
  simp only [placeText, zeroPadded, padZeros, not_mem_toList_append]
  exact ⟨⟨lineFeed_not_mem_toString _, by decide⟩, zeros _, lineFeed_not_mem_toString _⟩

theorem lineFeed_not_mem_fixedPoint (places : Nat) (x : Float) :
    '\n' ∉ (fixedPoint places x).toList := by
  have sign : '\n' ∉ (if isNegative x then "-" else "").toList := by
    split <;> decide
  unfold fixedPoint
  split
  · decide
  · dsimp only
    split
    · exact not_mem_toList_append.mpr ⟨sign, by decide⟩
    · exact not_mem_toList_append.mpr ⟨sign, lineFeed_not_mem_placeText _ _⟩

theorem lineFeed_not_mem_packetLine (sequence : Nat) (time : Float) :
    '\n' ∉ (packetLine sequence time).toList := by
  delta packetLine
  simp only [not_mem_toList_append]
  refine ⟨⟨⟨⟨?_, lineFeed_not_mem_toString _⟩, ?_⟩, lineFeed_not_mem_fixedPoint _ _⟩, ?_⟩
  all_goals decide

theorem lineFeed_not_mem_packetTotals (count : Nat) : '\n' ∉ (packetTotals count).toList := by
  delta packetTotals
  simp only [not_mem_toList_append]
  refine ⟨⟨⟨lineFeed_not_mem_toString _, ?_⟩, lineFeed_not_mem_toString _⟩, ?_⟩
  all_goals decide

theorem lineFeed_not_mem_packetTimes (average : Float) :
    '\n' ∉ (packetTimes average).toList := by
  delta packetTimes
  simp only [not_mem_toList_append]
  exact ⟨⟨by decide, lineFeed_not_mem_fixedPoint _ _⟩, by decide⟩

theorem packetReply_eq (sequence : Nat) (time : Float) :
    packetReply sequence time = packetLine sequence time := by
  have start : "64 bytes from " ++ resolvedAddress ++ ": icmp_seq=" =
      "64 bytes from 142.250.191.14: icmp_seq=" := by decide
  delta packetReply packetLine
  rw [start]

theorem packetReport_eq (host : String) (count : Nat) (time : Nat → Float) (average : Float) :
    packetReport host ((List.range count).map time) average =
      .lines (["PING " ++ host ++ " (142.250.191.14): 56 data bytes"] ++
        ((List.range count).map fun sequence => packetLine sequence (time sequence)) ++
        ["", "--- " ++ host ++ " ping statistics ---", packetTotals count,
          packetTimes average]) := by
  have replies : ((List.range count).map time).zipIdx.map
      (fun reply => packetReply reply.2 reply.1) =
        (List.range count).map fun sequence => packetLine sequence (time sequence) := by
    apply List.ext_getElem?
    intro place
    by_cases within : place < count <;> simp [within, packetReply_eq]
  have named : "PING " ++ host ++ " (" ++ resolvedAddress ++ "): 56 data bytes" =
      "PING " ++ host ++ " (142.250.191.14): 56 data bytes" := by
    have address : " (" ++ (resolvedAddress ++ "): 56 data bytes") =
        " (142.250.191.14): 56 data bytes" := by decide
    simp only [String.append_assoc, address]
  rw [packetReport, replies, named]
  simp only [List.length_map, List.length_range]
  rfl

theorem split_packetReport (host : String) (count : Nat) (time : Nat → Float) (average : Float) :
    split '\n' (packetReport host ((List.range count).map time) average).output =
      packetLines host count time average := by
  have replies : ∀ line ∈ (List.range count).map fun sequence =>
      packetLine sequence (time sequence), '\n' ∉ line.toList := by
    intro line hl
    obtain ⟨sequence, _, rfl⟩ := List.mem_map.mp hl
    exact lineFeed_not_mem_packetLine sequence (time sequence)
  have last : ∀ line ∈ [packetTotals count, packetTimes average], '\n' ∉ line.toList := by
    intro line hl
    rcases List.mem_pair.mp hl with rfl | rfl
    · exact lineFeed_not_mem_packetTotals count
    · exact lineFeed_not_mem_packetTimes average
  rw [packetReport_eq]
  change split '\n' (joinWith (String.singleton '\n') _) = _
  rw [split_joinWith_eq_flatMap (by simp), List.flatMap_append, List.flatMap_append,
    flatMap_split_of_not_mem replies, List.flatMap_singleton, List.flatMap_cons,
    List.flatMap_cons, flatMap_split_of_not_mem last, packetLines]
  simp only [List.append_assoc]
  rfl

theorem ping_eq (i : Invocation) (args : List String) (random : RandomSource) :
    ping (i.calling "ping" args) random =
      (packetReport (targetHost (i.calling "ping" args) ["-c"])
        ((List.range (packetsAsked args)).map (random.ahead 10 15))
        (random.ahead 12 14 (packetsAsked args)),
        { random with drawn := random.drawn + (packetsAsked args + 1) }) := by
  have count : packetCount (i.calling "ping" args).command = packetsAsked args := packetCount_eq
  rw [ping, count, RandomSource.manyBetween_eq]
  rfl

end EmulatedShell
