import TinkCc.ProtoHelpers
/-!
# ProtoWire — the wire grammar, below messages

What the helpers accept, stated on byte strings alone: tags, lengths, the payload of each wire type and nested groups.
`GroupTail fn depth` is what must follow the start tag of group `fn` when `depth` groups are open, itself counted.
The source walks groups with an explicit stack; `skipGroupLoop_sound` and `skipGroupLoop_complete` read the stack as
one `GroupTail` for each open group.
-/
namespace Tink

open Base128

/-- A tag: at most five bytes, taken mod 2^32, field number not 0. -/
structure IsTag (bs : Bytes) (wt : WireType) (fn : Nat) : Prop where
  varint : IsVarint bs
  length_le : bs.length ≤ 5
  number : value bs % 2 ^ 32 / 8 = fn
  number_ne : fn ≠ 0
  type : WireType.ofBits (value bs % 2 ^ 32 % 8) = wt

/-- A length: at most five bytes, below 2^32. -/
structure IsLength (bs : Bytes) (n : Nat) : Prop where
  varint : IsVarint bs
  length_le : bs.length ≤ 5
  lt : n < 2 ^ 32
  eq : value bs = n

/-- A length and that many bytes. -/
def IsDelimited (bs body : Bytes) : Prop := ∃ len, bs = len ++ body ∧ IsLength len body.length

/-- The payload of a record of this wire type, groups apart. -/
def IsPayload : WireType → Bytes → Prop
  | .kVarint, bs          => IsVarint bs ∧ bs.length ≤ 10
  | .kFixed64, bs         => bs.length = 8
  | .kFixed32, bs         => bs.length = 4
  | .kLengthDelimited, bs => ∃ body, IsDelimited bs body
  | _, _                  => False

/-- What follows the start tag of group `fn` when `depth` groups are open: fields and nested groups, and the end tag
with the same number.  At most a hundred groups are open at once. -/
inductive GroupTail : (fn depth : Nat) → Bytes → Prop
  | close {fn depth t} : IsTag t .kEndGroup fn → GroupTail fn depth t
  | field {fn depth t p r wt fn'} : IsTag t wt fn' → IsPayload wt p → GroupTail fn depth r →
      GroupTail fn depth (t ++ p ++ r)
  | group {fn depth t g r fn'} : IsTag t .kStartGroup fn' → depth + 1 ≤ 100 → GroupTail fn' (depth + 1) g →
      GroupTail fn depth r → GroupTail fn depth (t ++ g ++ r)

/-- The tails of all the open groups, innermost first. -/
def ClosesAll : List Nat → Bytes → Prop
  | [], bs          => bs = []
  | top :: rest, bs => ∃ a b, bs = a ++ b ∧ GroupTail top (rest.length + 1) a ∧ ClosesAll rest b

theorem IsTag.length_pos {bs : Bytes} {wt : WireType} {fn : Nat} (h : IsTag bs wt fn) : 0 < bs.length :=
  isVarint_length_pos h.varint

/-- The tag a writer writes is a tag. -/
theorem isTag_tagBytes {wt : WireType} {fn : Nat} (h0 : fn ≠ 0) (hlt : fn < 2 ^ 29) : IsTag (tagBytes wt fn) wt fn := by
  have hw := wt.toNat_lt
  have hb : 8 * fn + wt.toNat < 2 ^ 32 := by omega
  have hv : value (tagBytes wt fn) % 2 ^ 32 = 8 * fn + wt.toNat := by
    rw [tagBytes, value_encode, Nat.mod_eq_of_lt hb]
  refine ⟨isVarint_encode _, encode_length_le (by decide) (by omega), ?_, h0, ?_⟩
  · rw [hv]; omega
  · rw [hv, Nat.mul_add_mod, Nat.mod_eq_of_lt hw, WireType.ofBits_toNat]

theorem GroupTail.length_pos {fn depth : Nat} {bs : Bytes} (h : GroupTail fn depth bs) : 0 < bs.length := by
  cases h with
  | close ht => exact ht.length_pos
  | field ht => have := ht.length_pos; simp only [List.length_append]; omega
  | group ht => have := ht.length_pos; simp only [List.length_append]; omega

theorem isLength_encode {n : Nat} (h : n < 2 ^ 32) : IsLength (encode n) n :=
  ⟨isVarint_encode n, encode_length_le (by decide) (by omega), h, value_encode n⟩

theorem not_isPayload_of_group {wt : WireType} (h : wt = .kStartGroup ∨ wt = .kEndGroup) (bs : Bytes) :
    ¬ IsPayload wt bs := by
  rcases h with rfl | rfl <;> exact id

variable [AbslCrc]

/-! ## Tags and delimited payloads -/

theorem consumeTag_sound {st st' : ParsingState} {wt : WireType} {fn : Nat}
    (h : consumeIntoWireTypeAndFieldNumber st = some (wt, fn, st')) : ∃ t, IsTag t wt fn ∧ st.Consumes t st' := by
  unfold consumeIntoWireTypeAndFieldNumber at h
  split at h
  · cases h
  · rename_i result st₁ hr
    obtain ⟨bs, hv, hlen, hc, rfl⟩ := consumeVarintBytes_sound 32 _ 0 0 st result st₁ hr
    simp only [Nat.zero_mul, Nat.shiftLeft_zero, Nat.zero_or] at h
    have hand : value bs % 2 ^ 32 &&& 0x7 = value bs % 2 ^ 32 % 8 := Nat.and_two_pow_sub_one_eq_mod _ 3
    rw [hand, Nat.shiftRight_eq_div_pow] at h
    split at h
    · cases h
    · rename_i hne
      simp only [Option.some.injEq, Prod.mk.injEq] at h
      obtain ⟨rfl, rfl, rfl⟩ := h
      exact ⟨bs, ⟨hv, hlen, rfl, hne, rfl⟩, hc⟩

theorem consumeTag_complete {st : ParsingState} {t rest : Bytes} {wt : WireType} {fn : Nat} (ht : IsTag t wt fn)
    (hrem : st.remaining = t ++ rest) :
    ∃ st', consumeIntoWireTypeAndFieldNumber st = some (wt, fn, st') ∧ st.Consumes t st' := by
  obtain ⟨st', he, hc⟩ := consumeVarintBytes_complete 32 _ 0 0 st t rest ht.varint ht.length_le hrem
  refine ⟨st', ?_, hc⟩
  simp only [Nat.zero_mul, Nat.shiftLeft_zero, Nat.zero_or] at he
  have hand : value t % 2 ^ 32 &&& 0x7 = value t % 2 ^ 32 % 8 := Nat.and_two_pow_sub_one_eq_mod _ 3
  have hdiv : value t % 2 ^ 32 / 2 ^ 3 = fn := ht.number
  unfold consumeIntoWireTypeAndFieldNumber consumeVarintForTag kMax32BitVarintLength
  rw [he]
  simp only [hand, Nat.shiftRight_eq_div_pow, hdiv, ht.number_ne, if_false, ht.type]

/-- What a consumed front leaves. -/
theorem ParsingState.Consumes.remaining_eq {st st' : ParsingState} {a b : Bytes} (hc : st.Consumes a st')
    (h : st.remaining = a ++ b) : st'.remaining = b :=
  List.append_cancel_left (hc.remaining.symm.trans h)

/-- A size reader and the test that the bytes are there: what `SecretDataField` and the message fields do before they
look at the body. -/
theorem consumeVarintForSize_delimited {st st₁ : ParsingState} {n : Nat} (h : consumeVarintForSize st = some (n, st₁))
    (hn : ¬ n > st₁.remaining.length) :
    ∃ len, IsLength len (st₁.remaining.take n).length ∧ st.Consumes len st₁ ∧
      (st₁.remaining.take n).length = n := by
  obtain ⟨bs, hv, hlen, hc, hlt, rfl⟩ := consumeVarintForSize_sound h
  have hl : (st₁.remaining.take (value bs)).length = value bs := List.length_take_of_le (by omega)
  exact ⟨bs, ⟨hv, hlen, by omega, hl.symm⟩, hc, hl⟩

theorem consumeVarintForSize_of_isLength {st : ParsingState} {len body rest : Bytes} (h : IsLength len body.length)
    (hrem : st.remaining = len ++ (body ++ rest)) :
    ∃ st₁, consumeVarintForSize st = some (body.length, st₁) ∧ st.Consumes len st₁ ∧
      st₁.remaining = body ++ rest := by
  obtain ⟨st₁, he, hc⟩ := consumeVarintForSize_complete h.varint h.length_le (by rw [h.eq]; exact h.lt) hrem
  rw [h.eq] at he
  exact ⟨st₁, he, hc, hc.remaining_eq hrem⟩

theorem consumeBytesReturnStringView_sound {st st' : ParsingState} {body : Bytes}
    (h : consumeBytesReturnStringView st = some (body, st')) : ∃ bs, IsDelimited bs body ∧ st.Consumes bs st' := by
  unfold consumeBytesReturnStringView at h
  split at h
  · cases h
  · rename_i n st₁ hs
    split at h
    · cases h
    · rename_i hn
      simp only [Option.some.injEq, Prod.mk.injEq] at h
      obtain ⟨rfl, rfl⟩ := h
      obtain ⟨len, hl, hc, -⟩ := consumeVarintForSize_delimited hs hn
      exact ⟨len ++ st₁.remaining.take n, ⟨len, rfl, hl⟩, hc.trans (ParsingState.consumes_advance (by omega))⟩

theorem consumeBytesReturnStringView_complete {st : ParsingState} {bs body rest : Bytes} (h : IsDelimited bs body)
    (hrem : st.remaining = bs ++ rest) :
    ∃ st', consumeBytesReturnStringView st = some (body, st') ∧ st.Consumes bs st' := by
  obtain ⟨len, rfl, hl⟩ := h
  obtain ⟨st₁, he, hc, hr⟩ := consumeVarintForSize_of_isLength hl (hrem.trans (List.append_assoc ..))
  have hle : ¬ body.length > st₁.remaining.length := by rw [hr, List.length_append]; omega
  refine ⟨st₁.advance body.length, ?_, hc.trans (ParsingState.consumes_advance_of_eq hr).1⟩
  rw [consumeBytesReturnStringView, he]
  simp only [if_neg hle]
  rw [hr, List.take_left]

/-! ## Skipping -/

theorem consumeFixed_sound {size : Nat} {st st' : ParsingState} (h : consumeFixed size st = some st') :
    ∃ p, p.length = size ∧ st.Consumes p st' := by
  unfold consumeFixed at h
  split at h
  · cases h
  · rename_i hn
    cases h
    exact ⟨st.remaining.take size, List.length_take_of_le (by omega), ParsingState.consumes_advance (by omega)⟩

theorem consumeFixed_complete {st : ParsingState} {p rest : Bytes} (hrem : st.remaining = p ++ rest) :
    ∃ st', consumeFixed p.length st = some st' ∧ st.Consumes p st' := by
  refine ⟨st.advance p.length, ?_, (ParsingState.consumes_advance_of_eq hrem).1⟩
  rw [consumeFixed, if_neg (by rw [hrem, List.length_append]; omega)]

theorem skipField_sound {wt : WireType} {st st' : ParsingState} (h : skipField wt st = some st') :
    ∃ p, IsPayload wt p ∧ st.Consumes p st' := by
  unfold skipField at h
  split at h
  · obtain ⟨⟨v, st₁⟩, hs, rfl⟩ := Option.map_eq_some_iff.1 h
    obtain ⟨bs, hv, hlen, hc, -⟩ := consumeVarintIntoUint64_sound hs
    exact ⟨bs, ⟨hv, hlen⟩, hc⟩
  · obtain ⟨⟨body, st₁⟩, hs, rfl⟩ := Option.map_eq_some_iff.1 h
    obtain ⟨bs, hd, hc⟩ := consumeBytesReturnStringView_sound hs
    exact ⟨bs, ⟨body, hd⟩, hc⟩
  · exact consumeFixed_sound h
  · exact consumeFixed_sound h
  · cases h

theorem skipField_complete {wt : WireType} {st : ParsingState} {p rest : Bytes} (hp : IsPayload wt p)
    (hrem : st.remaining = p ++ rest) : ∃ st', skipField wt st = some st' ∧ st.Consumes p st' := by
  cases wt with
  | kVarint =>
    obtain ⟨st', he, hc⟩ := consumeVarintIntoUint64_complete hp.1 hp.2 hrem
    exact ⟨st', by rw [skipField, he]; rfl, hc⟩
  | kLengthDelimited =>
    obtain ⟨body, hd⟩ := hp
    obtain ⟨st', he, hc⟩ := consumeBytesReturnStringView_complete hd hrem
    exact ⟨st', by rw [skipField, he]; rfl, hc⟩
  | kFixed32 =>
    obtain ⟨st', he, hc⟩ := consumeFixed_complete hrem
    have hl : p.length = 4 := hp
    rw [hl] at he
    exact ⟨st', he, hc⟩
  | kFixed64 =>
    obtain ⟨st', he, hc⟩ := consumeFixed_complete hrem
    have hl : p.length = 8 := hp
    rw [hl] at he
    exact ⟨st', he, hc⟩
  | kStartGroup => exact hp.elim
  | kEndGroup => exact hp.elim
  | unassigned6 => exact hp.elim
  | unassigned7 => exact hp.elim

/-! ## Groups -/

/-- One turn of the group loop, as what it read: a start tag, the end tag of the top group, or a field. -/
theorem skipGroupLoop_turn {fuel top : Nat} {stack : List Nat} {st st' : ParsingState}
    (h : skipGroupLoop (fuel + 1) (top :: stack) st = some st') :
    ∃ t st₁ wt fn, IsTag t wt fn ∧ st.Consumes t st₁ ∧
      ((wt = .kStartGroup ∧ (fn :: top :: stack).length ≤ 100 ∧
          skipGroupLoop fuel (fn :: top :: stack) st₁ = some st') ∨
       (wt = .kEndGroup ∧ fn = top ∧ skipGroupLoop fuel stack st₁ = some st') ∨
       (∃ p st₂, IsPayload wt p ∧ st₁.Consumes p st₂ ∧ skipGroupLoop fuel (top :: stack) st₂ = some st')) := by
  rw [skipGroupLoop] at h
  split at h
  · cases h
  · rename_i wt fn st₁ ht
    obtain ⟨t, htag, hc⟩ := consumeTag_sound ht
    refine ⟨t, st₁, wt, fn, htag, hc, ?_⟩
    split at h
    · split at h
      · cases h
      · rename_i hle
        exact .inl ⟨rfl, Nat.le_of_not_gt hle, h⟩
    · split at h
      · cases h
      · rename_i heq
        exact .inr (.inl ⟨rfl, (not_not.1 heq).symm, h⟩)
    · split at h
      · cases h
      · rename_i st₂ hs
        obtain ⟨p, hp, hc₂⟩ := skipField_sound hs
        exact .inr (.inr ⟨p, st₂, hp, hc₂, h⟩)

/-- **An accepted group walk read one tail for each open group.** -/
theorem skipGroupLoop_sound : ∀ (fuel : Nat) (stack : List Nat) (st st' : ParsingState),
    skipGroupLoop fuel stack st = some st' → ∃ bs, ClosesAll stack bs ∧ st.Consumes bs st'
  | fuel, [], st, st', h => by
    have : st = st' := by cases fuel <;> simpa [skipGroupLoop] using h
    exact ⟨[], rfl, this ▸ .refl st⟩
  | 0, _ :: _, _, _, h => by cases h
  | fuel + 1, top :: stack, st, st', h => by
    obtain ⟨t, st₁, wt, fn, ht, hc, hturn⟩ := skipGroupLoop_turn h
    rcases hturn with ⟨rfl, hle, h'⟩ | ⟨rfl, rfl, h'⟩ | ⟨p, st₂, hp, hc₂, h'⟩
    · obtain ⟨bs, ⟨g, b, rfl, hg, r, c, rfl, hr, hall⟩, hcs⟩ := skipGroupLoop_sound fuel _ st₁ st' h'
      refine ⟨t ++ (g ++ (r ++ c)), ⟨t ++ g ++ r, c, by simp, ?_, hall⟩, hc.trans hcs⟩
      exact .group ht (by simp only [List.length_cons] at hle ⊢; omega) hg hr
    · obtain ⟨bs, hall, hcs⟩ := skipGroupLoop_sound fuel _ st₁ st' h'
      exact ⟨t ++ bs, ⟨t, bs, rfl, .close ht, hall⟩, hc.trans hcs⟩
    · obtain ⟨bs, ⟨r, b, rfl, hr, hall⟩, hcs⟩ := skipGroupLoop_sound fuel _ st₂ st' h'
      exact ⟨t ++ (p ++ (r ++ b)), ⟨t ++ p ++ r, b, by simp, .field ht hp hr, hall⟩, hc.trans (hc₂.trans hcs)⟩

/-- **Every string of tails is walked**, as soon as the turns are at least its bytes. -/
theorem skipGroupLoop_complete : ∀ (fuel : Nat) (stack : List Nat) (st : ParsingState) (bs rest : Bytes),
    ClosesAll stack bs → st.remaining = bs ++ rest → bs.length ≤ fuel →
      ∃ st', skipGroupLoop fuel stack st = some st' ∧ st.Consumes bs st'
  | fuel, [], st, bs, rest, hcl, _, _ => by
    obtain rfl : bs = [] := hcl
    exact ⟨st, by cases fuel <;> rfl, .refl st⟩
  | 0, top :: stack, st, bs, rest, hcl, _, hf => by
    obtain ⟨a, b, rfl, ha, -⟩ := hcl
    have := ha.length_pos
    simp only [List.length_append] at hf
    omega
  | fuel + 1, top :: stack, st, bs, rest, hcl, hrem, hf => by
    obtain ⟨a, b, rfl, ha, hb⟩ := hcl
    rw [skipGroupLoop]
    cases ha with
    | close ht =>
      obtain ⟨st₁, he, hc⟩ := consumeTag_complete ht (hrem.trans (List.append_assoc ..))
      obtain ⟨st', he', hc'⟩ := skipGroupLoop_complete fuel stack st₁ b rest hb
        (hc.remaining_eq (hrem.trans (List.append_assoc ..)))
        (by have := ht.length_pos; simp only [List.length_append] at hf; omega)
      exact ⟨st', by rw [he]; simpa using he', hc.trans hc'⟩
    | @field _ _ t p r wt fn' ht hp hr =>
      have hrem₀ : st.remaining = t ++ (p ++ (r ++ b ++ rest)) := by rw [hrem]; simp
      obtain ⟨st₁, he, hc⟩ := consumeTag_complete ht hrem₀
      obtain ⟨st₂, hs, hc₂⟩ := skipField_complete hp (hc.remaining_eq hrem₀)
      obtain ⟨st', he', hc'⟩ := skipGroupLoop_complete fuel (top :: stack) st₂ (r ++ b) rest ⟨r, b, rfl, hr, hb⟩
        (hc₂.remaining_eq (hc.remaining_eq hrem₀))
        (by have := ht.length_pos; simp only [List.length_append] at hf ⊢; omega)
      refine ⟨st', ?_, by have := hc.trans (hc₂.trans hc'); simpa using this⟩
      rw [he]
      have hne : wt ≠ .kStartGroup ∧ wt ≠ .kEndGroup :=
        ⟨fun h => not_isPayload_of_group (.inl h) p hp, fun h => not_isPayload_of_group (.inr h) p hp⟩
      cases wt <;> simp_all
    | @group _ _ t g r fn' ht hd hg hr =>
      have hrem₀ : st.remaining = t ++ (g ++ (r ++ b) ++ rest) := by rw [hrem]; simp
      obtain ⟨st₁, he, hc⟩ := consumeTag_complete ht hrem₀
      obtain ⟨st', he', hc'⟩ := skipGroupLoop_complete fuel (fn' :: top :: stack) st₁ (g ++ (r ++ b)) rest
        ⟨g, r ++ b, rfl, hg, r, b, rfl, hr, hb⟩ (hc.remaining_eq hrem₀)
        (by have := ht.length_pos; simp only [List.length_append] at hf ⊢; omega)
      refine ⟨st', ?_, by have := hc.trans hc'; simpa using this⟩
      have hle : ¬ (fn' :: top :: stack).length > kSkipGroupLimit := by
        simp only [List.length_cons, kSkipGroupLimit] at hd ⊢; omega
      rw [he]
      simp only [hle, if_false]
      exact he'

theorem skipGroup_sound {fn : Nat} {st st' : ParsingState} (h : skipGroup fn st = some st') :
    ∃ bs, GroupTail fn 1 bs ∧ st.Consumes bs st' := by
  obtain ⟨bs, ⟨a, b, rfl, ha, rfl⟩, hc⟩ := skipGroupLoop_sound _ _ st st' h
  exact ⟨a, ha, by simpa using hc⟩

theorem skipGroup_complete {fn : Nat} {st : ParsingState} {g rest : Bytes} (hg : GroupTail fn 1 g)
    (hrem : st.remaining = g ++ rest) : ∃ st', skipGroup fn st = some st' ∧ st.Consumes g st' := by
  have hcl : ClosesAll [fn] g := ⟨g, [], by simp, hg, rfl⟩
  exact skipGroupLoop_complete _ _ st g rest hcl hrem (by rw [hrem]; simp)

end Tink
