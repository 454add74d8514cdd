import LinkStack.Channel.Address
import LinkStack.Proofs.Text.Digits

/-!
The text of a socket address reads as that address.

Groups are read one after another, so the argument follows the run of groups:
each ends where no digit follows (`Boundary`), and the run ends where no
further group does. What stands between the two ends of a shortened address is
what was left out, because a run of zeros was (`longestZeros_spec`).
-/

namespace LinkStack.Channel

open Text (span_append isDigit_decimal foldl_decimal head?_toDigits)

/-! ### Numbers -/

/-- What follows does not continue a decimal number. -/
def Ending (rest : List Char) : Prop := ∀ c ∈ rest.head?, c.isDigit = false

theorem readDecimal_decimal {max n : Nat} (h : n ≤ max) {rest : List Char} (hrest : Ending rest) :
    readDecimal max (decimal n ++ rest) = some (n, rest) := by
  obtain ⟨htake, hdrop⟩ := span_append (isDigit_decimal (n := n)) hrest
  have hne : Nat.toDigits 10 n ≠ [] := Nat.toDigits_ne_nil
  simp only [readDecimal, decimal, htake, hdrop, foldl_decimal, ne_eq, hne, not_false_iff, h,
    and_self, if_true]

theorem readOctet_decimal (n : UInt8) {rest : List Char} (hrest : Ending rest) :
    readOctet (decimal n.toNat ++ rest) = some (n, rest) := by
  have hlead : ¬ (1 < (decimal n.toNat).length ∧ (decimal n.toNat).head? = some '0') := by
    rintro ⟨hlength, hhead⟩
    by_cases hzero : n.toNat = 0
    · rw [hzero, decimal, Text.toDigits_zero (by decide)] at hlength
      simp at hlength
    · exact head?_toDigits (by decide) hzero hhead
  have htake := (span_append (isDigit_decimal (n := n.toNat)) hrest).1
  rw [decimal] at hlead
  simp only [readOctet, decimal, htake, hlead, if_false]
  rw [← decimal, readDecimal_decimal (Nat.le_of_lt_succ n.toNat_lt) hrest]
  simp

theorem ending_cons {c : Char} (hc : c.isDigit = false) (rest : List Char) : Ending (c :: rest) := by
  rintro d hd
  cases hd
  exact hc

theorem readPort_decimal (port : UInt16) :
    readPort (':' :: decimal port.toNat) = some (port, []) := by
  have hempty : Ending [] := fun c hc => by simp at hc
  have hread := readDecimal_decimal (Nat.le_of_lt_succ port.toNat_lt) hempty
  rw [List.append_nil] at hread
  simp [readPort, readChar, hread]

/-! ### IPv4 -/

@[simp] theorem readChar_cons (c : Char) (rest : List Char) : readChar c (c :: rest) = some rest :=
  if_pos rfl

theorem readChar_eq_none {c : Char} {chars : List Char} (h : chars.head? ≠ some c) :
    readChar c chars = none := by
  cases chars with
  | nil => rfl
  | cons d rest => exact if_neg fun hd => h (by rw [hd, List.head?_cons])

theorem readIPv4_render (host : IPv4) {rest : List Char} (hrest : Ending rest) :
    readIPv4 (host.render ++ rest) = some (host, rest) := by
  have hdot (rest : List Char) : Ending ('.' :: rest) := ending_cons rfl rest
  simp [IPv4.render, readIPv4, readOctet_decimal, hdot, hrest]

theorem readOctet_rest {chars rest : List Char} {n : UInt8}
    (h : readOctet chars = some (n, rest)) : rest = chars.dropWhile Char.isDigit := by
  simp only [readOctet, readDecimal] at h
  grind

/-- An address has a dot behind its first number. -/
theorem readIPv4_eq_none {chars : List Char}
    (h : (chars.dropWhile Char.isDigit).head? ≠ some '.') : readIPv4 chars = none := by
  rw [readIPv4]
  cases hfirst : readOctet chars with
  | none => rfl
  | some first =>
    obtain ⟨a, rest⟩ := first
    rw [← readOctet_rest hfirst] at h
    simp [readChar_eq_none h]

/-! ### Groups -/

/-- What follows continues neither a group nor an IPv4 address. -/
def Boundary (rest : List Char) : Prop := ∀ c ∈ rest.head?, Text.Hex.value? c = none ∧ c ≠ '.'

theorem boundary_cons {c : Char} (hc : Text.Hex.value? c = none) (hdot : c ≠ '.')
    (rest : List Char) : Boundary (c :: rest) := by
  rintro d hd
  cases hd
  exact ⟨hc, hdot⟩

theorem isDigit_eq_false {c : Char} (h : Text.Hex.value? c = none) : c.isDigit = false := by
  unfold Text.Hex.value? at h
  split at h
  · cases h
  · rename_i hdigit
    exact Bool.eq_false_iff.mpr hdigit

/-- Behind the decimal digits of a group there is no dot. -/
theorem Boundary.no_dot {rest : List Char} (h : Boundary rest) {chars : List Char}
    (hchars : ∀ c ∈ chars, (Text.Hex.value? c).isSome) :
    ((chars ++ rest).dropWhile Char.isDigit).head? ≠ some '.' := by
  induction chars with
  | nil =>
    cases rest with
    | nil => simp
    | cons c rest =>
      obtain ⟨hvalue, hdot⟩ := h c rfl
      simp [isDigit_eq_false hvalue, hdot]
  | cons c chars ih =>
    rw [List.cons_append, List.dropWhile_cons]
    split
    · exact ih fun c hc => hchars c (List.mem_cons_of_mem _ hc)
    · rintro hdot
      rw [List.head?_cons, Option.some.injEq] at hdot
      have hvalue := hchars c List.mem_cons_self
      rw [hdot] at hvalue
      cases hvalue

theorem Boundary.readIPv4 {rest : List Char} (h : Boundary rest) : readIPv4 rest = none :=
  readIPv4_eq_none (h.no_dot (List.forall_mem_nil _))

theorem Boundary.readGroup {rest : List Char} (h : Boundary rest) : readGroup rest = none := by
  have htake : rest.takeWhile (fun c => (Text.Hex.value? c).isSome) = [] := by
    cases rest with
    | nil => rfl
    | cons c rest => simp [(h c rfl).1]
  simp [Channel.readGroup, htake]

theorem readGroup_digits (group : UInt16) {rest : List Char} (h : Boundary rest) :
    readGroup (Text.Hex.digits group.toNat ++ rest) = some (group, rest) := by
  obtain ⟨hvalues, hfold⟩ := Text.Hex.values_digits group.toNat
  have hend : ∀ c ∈ rest.head?, (Text.Hex.value? c).isSome = false :=
    fun c hc => by rw [(h c hc).1, Option.isSome_none]
  have htake := (span_append hvalues hend).1
  have hshort : ¬ (Text.Hex.digits group.toNat = [] ∨ 4 < (Text.Hex.digits group.toNat).length) := by
    have := Text.Hex.length_digits_le group.toNat_lt
    simp only [Text.Hex.digits_ne_nil, false_or]
    omega
  simp only [readGroup, htake, hshort, if_false, hfold, UInt16.ofNat_toNat, List.drop_left]

/-! ### Runs of groups -/

/-- A group behind a colon, unless it is the first one. -/
def lead (first : Bool) : List Char := if first then [] else [':']

/-- A group is taken off the front of a run. -/
theorem readRun_digits (limit : Nat) (first : Bool) (group : UInt16) {rest : List Char}
    (h : Boundary rest) :
    readRun (limit + 1) first (lead first ++ (Text.Hex.digits group.toNat ++ rest)) =
      { readRun limit false rest with groups := group :: (readRun limit false rest).groups } := by
  have hnone := readIPv4_eq_none (h.no_dot (Text.Hex.values_digits group.toNat).1)
  cases first <;>
    simp only [readRun, lead, Bool.false_eq_true, if_true, if_false, List.nil_append,
      List.cons_append, readChar_cons, hnone, ite_self, readGroup_digits group h]

/-- A run of none ends where it starts. -/
theorem readRun_boundary (limit : Nat) (first : Bool) {rest : List Char} (h : Boundary rest) :
    readRun limit first (lead first ++ rest) = ⟨[], false, lead first ++ rest⟩ := by
  cases limit with
  | zero => rfl
  | succ limit =>
    cases first <;>
      simp only [readRun, lead, Bool.false_eq_true, if_true, if_false, List.nil_append,
        List.cons_append, readChar_cons, h.readIPv4, ite_self, h.readGroup]

/-- A run ends where no colon follows. -/
theorem readRun_no_colon (limit : Nat) {rest : List Char} (h : rest.head? ≠ some ':') :
    readRun limit false rest = ⟨[], false, rest⟩ := by
  cases limit with
  | zero => rfl
  | succ limit =>
    simp [readRun, readChar_eq_none h]

/-- The groups of a run are those that were written, if nothing behind them
continues it. -/
theorem readRun_renderGroups {groups : List UInt16} (hne : groups ≠ []) {rest : List Char}
    (h : Boundary rest) {limit : Nat} (hlimit : groups.length ≤ limit)
    (hstop : readRun (limit - groups.length) false rest = ⟨[], false, rest⟩) (first : Bool) :
    readRun limit first (lead first ++ (renderGroups groups ++ rest)) =
      ⟨groups, false, rest⟩ := by
  induction groups generalizing limit first with
  | nil => contradiction
  | cons group groups ih =>
    obtain ⟨limit, rfl⟩ := Nat.exists_eq_succ_of_ne_zero (n := limit) (by simp at hlimit; omega)
    cases groups with
    | nil =>
      rw [renderGroups, readRun_digits limit first group h]
      simp only [List.length_singleton, Nat.succ_eq_add_one, Nat.add_sub_cancel] at hstop
      rw [hstop]
    | cons next groups =>
      have hrest := ih (List.cons_ne_nil next groups) (Nat.le_of_succ_le_succ hlimit)
        (by simpa using hstop) false
      rw [renderGroups, List.append_assoc, List.cons_append,
        readRun_digits limit first group (boundary_cons (by decide) (by decide) _)]
      rw [lead] at hrest
      simp only [Bool.false_eq_true, if_false, List.cons_append, List.nil_append] at hrest
      rw [hrest]
      · simp

/-! ### Zeros that are left out -/

theorem zeroPrefix_le (groups : List UInt16) : zeroPrefix groups ≤ groups.length :=
  (List.takeWhile_prefix _).length_le

theorem take_zeroPrefix (groups : List UInt16) {length : Nat} (h : length ≤ zeroPrefix groups) :
    groups.take length = List.replicate length 0 := by
  induction groups generalizing length with
  | nil =>
    rw [Nat.le_zero.mp h]
    rfl
  | cons group groups ih =>
    cases length with
    | zero => rfl
    | succ length =>
      rw [zeroPrefix, List.takeWhile_cons] at h
      split at h
      · rename_i hzero
        rw [List.take_succ_cons, ih (by simpa [zeroPrefix] using h), of_decide_eq_true hzero,
          List.replicate_succ]
      · simp at h

/-- The longest run of zeros is a run of zeros. -/
theorem longestZeros_spec (groups : List UInt16) :
    (longestZeros groups).2 ≤ zeroPrefix (groups.drop (longestZeros groups).1) := by
  unfold longestZeros
  refine List.foldlRecOn (motive := fun best : Nat × Nat =>
    best.2 ≤ zeroPrefix (groups.drop best.1)) _ _ (Nat.zero_le _) fun best hbest start _ => ?_
  simp only
  split
  · exact le_rfl
  · exact hbest

/-- An address is what remains of it with its zeros put back. -/
theorem IPv6.ofEnds?_eq_some (host : IPv6) (start length : Nat)
    (h : length ≤ zeroPrefix (host.groups.drop start)) :
    IPv6.ofEnds? (host.groups.take start) (host.groups.drop (start + length)) = some host := by
  obtain ⟨groups, hgroups⟩ := host
  have hbound := h.trans (zeroPrefix_le _)
  have hmissing : 8 - (groups.take start).length - (groups.drop (start + length)).length =
      length := by
    simp only [List.length_take, List.length_drop, hgroups] at hbound ⊢
    omega
  have hwhole : groups.take start ++ List.replicate length 0 ++ groups.drop (start + length) =
      groups := by
    rw [← take_zeroPrefix _ h, ← List.drop_drop, List.append_assoc, List.take_append_drop,
      List.take_append_drop]
  simp only [ofEnds?, hmissing, hwhole, hgroups, dif_pos]

/-! ### IPv6 -/

theorem IPv6.ofEnds?_groups (host : IPv6) : IPv6.ofEnds? host.groups [] = some host := by
  have hall := host.ofEnds?_eq_some 8 0 (Nat.zero_le _)
  have hlength := host.length_groups
  rwa [List.take_of_length_le (by omega), List.drop_of_length_le (by omega)] at hall

/-- Behind the groups of an address stands a scope or a bracket. -/
theorem readIPv6_of_run {chars rest : List Char} {host : IPv6}
    (h : readRun 8 true chars = ⟨host.groups, false, rest⟩) :
    readIPv6 chars = some (host, rest) := by
  simp only [readIPv6, h, host.length_groups, if_true, host.ofEnds?_groups]
  rfl

/-- The two ends of an address with a double colon between them. -/
theorem readIPv6_of_ends {chars rest : List Char} {front back : List UInt16} {host : IPv6}
    {ipv4 : Bool} (hfront : readRun 8 true chars = ⟨front, false, ':' :: ':' :: rest⟩)
    (hlength : front.length < 8) {rest' : List Char}
    (hback : readRun (7 - front.length) true rest = ⟨back, ipv4, rest'⟩)
    (hhost : IPv6.ofEnds? front back = some host) : readIPv6 chars = some (host, rest') := by
  have hne : front.length ≠ 8 := Nat.ne_of_lt hlength
  simp [readIPv6, hfront, hne, hback, hhost]

/-- What follows an address ends its last group and the address. -/
theorem readRun_renderGroups_end {groups : List UInt16} {rest : List Char} (h : Boundary rest)
    (hcolon : rest.head? ≠ some ':') {limit : Nat} (hlimit : groups.length ≤ limit) :
    readRun limit true (renderGroups groups ++ rest) = ⟨groups, false, rest⟩ := by
  cases groups with
  | nil => exact readRun_boundary limit true h
  | cons group groups =>
    exact readRun_renderGroups (by simp) h hlimit (readRun_no_colon _ hcolon) true

theorem readRun_renderGroups_colons (groups : List UInt16) (rest : List Char)
    (hlimit : groups.length ≤ 8) :
    readRun 8 true (renderGroups groups ++ ':' :: ':' :: rest) =
      ⟨groups, false, ':' :: ':' :: rest⟩ := by
  have hcolon (rest : List Char) : Boundary (':' :: rest) :=
    boundary_cons (by decide) (by decide) rest
  cases groups with
  | nil => exact readRun_boundary 8 true (hcolon _)
  | cons group groups =>
    exact readRun_renderGroups (by simp) (hcolon _) hlimit
      (readRun_boundary _ false (hcolon rest)) true

/-- A group is made of its two bytes. -/
theorem ofNat_bytes (x : UInt16) :
    UInt16.ofNat (256 * (x >>> 8).toUInt8.toNat + x.toUInt8.toNat) = x := by
  have hx := x.toNat_lt
  have hhigh : (x >>> 8).toUInt8.toNat = x.toNat / 256 := by
    simp [Nat.shiftRight_eq_div_pow]
    omega
  have hlow : x.toUInt8.toNat = x.toNat % 256 := UInt16.toNat_toUInt8 x
  refine UInt16.toNat_inj.mp ?_
  rw [hhigh, hlow, UInt16.toNat_ofNat']
  omega

/-- The groups of a mapped address. -/
theorem IPv6.mapped?_eq_some {host : IPv6} {v4 : IPv4} (h : host.mapped? = some v4) :
    host.groups = [0, 0, 0, 0, 0, 0xFFFF] ++ v4.groups := by
  unfold mapped? at h
  split at h
  · rename_i x y heq
    rw [heq, ← Option.some.inj h]
    simp only [IPv4.groups, ofNat_bytes]
    rfl
  · cases h

theorem readIPv6_mapped {host : IPv6} {v4 : IPv4} (h : host.mapped? = some v4) {rest : List Char}
    (hrest : Ending rest) :
    readIPv6 ("::ffff:".toList ++ (v4.render ++ rest)) = some (host, rest) := by
  have hfront := readRun_renderGroups_colons [] ("ffff:".toList ++ (v4.render ++ rest)) (by decide)
  have hipv4 : readRun 6 false (':' :: (v4.render ++ rest)) = ⟨v4.groups, true, rest⟩ := by
    simp [readRun, readIPv4_render v4 hrest]
  have hback : readRun 7 true ("ffff:".toList ++ (v4.render ++ rest)) =
      ⟨0xFFFF :: v4.groups, true, rest⟩ := by
    have hgroup := readRun_digits 6 true 0xFFFF
      (boundary_cons (c := ':') (by decide) (by decide) (v4.render ++ rest))
    rw [hipv4] at hgroup
    exact hgroup
  refine readIPv6_of_ends hfront (by decide) hback ?_
  have hall := host.ofEnds?_eq_some 0 5 (by
    rw [IPv6.mapped?_eq_some h]
    simp [zeroPrefix])
  rw [IPv6.mapped?_eq_some h] at hall
  exact hall

/-- The text of an address reads as the address. -/
theorem readIPv6_render (host : IPv6) {rest : List Char} (h : Boundary rest)
    (hcolon : rest.head? ≠ some ':') : readIPv6 (host.render ++ rest) = some (host, rest) := by
  have hending : Ending rest := fun c hc => isDigit_eq_false (h c hc).1
  have hlength := host.length_groups
  rw [IPv6.render]
  split
  · rename_i v4 hmapped
    rw [List.append_assoc]
    exact readIPv6_mapped hmapped hending
  · have hzeros := longestZeros_spec host.groups
    have hbound := hzeros.trans (zeroPrefix_le _)
    simp only
    generalize hstart : (longestZeros host.groups).1 = start at hzeros hbound ⊢
    generalize hcount : (longestZeros host.groups).2 = length at hzeros hbound ⊢
    rw [List.length_drop] at hbound
    split
    · rename_i hmany
      rw [List.append_assoc, List.cons_append, List.cons_append]
      have hfits : (host.groups.drop (start + length)).length ≤
          7 - (host.groups.take start).length := by
        simp only [List.length_drop, List.length_take]
        omega
      have hback := readRun_renderGroups_end h hcolon hfits
      refine readIPv6_of_ends (readRun_renderGroups_colons _ _ ?_) ?_ hback
        (host.ofEnds?_eq_some start length hzeros)
      all_goals
        rw [List.length_take]
        omega
    · exact readIPv6_of_run (readRun_renderGroups_end h hcolon (by omega))

/-! ### Socket addresses -/

namespace SocketAddress

theorem readScope_render (scope : UInt32) (rest : List Char) :
    readScope ((if scope = 0 then [] else '%' :: decimal scope.toNat) ++ ']' :: rest) =
      some (scope, ']' :: rest) := by
  split
  · rename_i hzero
    rw [hzero]
    rfl
  · have hread := readDecimal_decimal (Nat.le_sub_one_of_lt scope.toNat_lt)
      (ending_cons (c := ']') rfl rest)
    simp only [List.cons_append, readScope]
    rw [show UInt32.size - 1 = 2 ^ 32 - 1 from rfl, hread]
    simp

/-- The text of an address reads as the address. -/
theorem parse_render (address : SocketAddress) : parse address.render = some address := by
  cases address with
  | v4 host port =>
    have hhost := readIPv4_render host (ending_cons (c := ':') rfl (decimal port.toNat))
    simp [parse, render, readV4, hhost, readPort_decimal]
  | v6 host scope port =>
    have hfirst (rest : List Char) : readIPv4 ('[' :: rest) = none :=
      Boundary.readIPv4 (boundary_cons (by decide) (by decide) rest)
    have hscope := readScope_render scope (':' :: decimal port.toNat)
    generalize hsuffix : (if scope = 0 then [] else '%' :: decimal scope.toNat) ++
      ']' :: ':' :: decimal port.toNat = suffix at hscope
    have hboundary : Boundary suffix := by
      rw [← hsuffix]
      split <;> exact boundary_cons (by decide) (by decide) _
    have hcolon : suffix.head? ≠ some ':' := by
      rw [← hsuffix]
      split <;> simp
    have hhost := readIPv6_render host hboundary hcolon
    simp [parse, render, readV4, hfirst, readV6, hsuffix, hhost, hscope, readPort_decimal]

end SocketAddress

end LinkStack.Channel
