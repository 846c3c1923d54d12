import Mathlib.Data.List.Forall2
import Peraviz.Gdtf.FixtureType
import Peraviz.Gdtf.Offsets

/-!
This module contains the resolution of the addresses of a fixture against its MVR patch: the entry
of a break, the validation of all programs of the fixture and the byte sources that a program
reads. The reader of the MVR Addresses either withholds the fixture or yields one address for every
Address child, without an overflow.
-/

namespace Peraviz.Gdtf

open CheckedInt Peraviz.Runtime

structure FixturePatchAddress where
  mvrBreak : Int32 := 0
  mvrUniverse : Int32 := -1
  address : Int32 := -1
  order : Int32 := 0
  explicitBreak : Bool := false

structure FixturePatch where
  fixtureUuid : String := ""
  mvrUniverse : Int32 := -1
  mvrAddress : Int32 := -1
  dmxMode : String := ""
  gdtfPath : String := ""
  dmxImportError : String := ""
  addresses : List FixturePatchAddress := []

def findBreak (gdtfBreak : Int32) : List FixturePatchAddress → Option (Option FixturePatchAddress)
  | [] => some none
  | entry :: addresses => do
    let mvrBreak ← subChecked gdtfBreak 1
    if entry.mvrBreak = mvrBreak then return some entry
    findBreak gdtfBreak addresses

def sourcePatch (patch : FixturePatch) (gdtfBreak : Int32) : Option FixturePatchAddress := do
  match ← findBreak gdtfBreak patch.addresses with
  | some entry => return entry
  | none =>
    if patch.addresses = [] ∧ gdtfBreak = 1 then
      return ⟨0, patch.mvrUniverse, patch.mvrAddress, 0, false⟩
    return {}

def baseUniverse (patch : FixturePatch) : Option Int32 :=
  if 0 < patch.mvrUniverse then some patch.mvrUniverse
  else patch.addresses.head?.map FixturePatchAddress.mvrUniverse

def startAddress (patch : FixturePatch) : Option Int32 :=
  if 0 < patch.mvrAddress then some patch.mvrAddress
  else patch.addresses.head?.map FixturePatchAddress.address

def missingBreak (program : ChannelProgram) (mvrBreak : Int32) : String :=
  "Missing MVR patch for GDTF break " ++ toString program.dmxBreak ++ " (MVR break " ++
    toString mvrBreak ++ ")."

/-- The check of one program, `some ""` is an accepted one. -/
def programIssue (patch : FixturePatch) (universeOffset : Int32) (program : ChannelProgram)
    : Option String := do
  let entry ← sourcePatch patch program.dmxBreak
  if entry.mvrUniverse < 1 ∨ entry.address < 1 ∨ 512 < entry.address then
    return missingBreak program (← subChecked program.dmxBreak 1)
  let resolved := entry.mvrUniverse.toInt + universeOffset.toInt
  if resolved < 0 ∨ 32767 < resolved then
    return "Resolved universe is outside the Art-Net Port-Address range."
  if program.dmxOffsetsOneBased.any (fun offset =>
      offset < 1 ∨ 512 ≤ entry.address.toInt + offset.toInt - 2) = true then
    return "Patch-adjusted ordered byte source exceeds its 512-slot break."
  return ""

def programsIssue (patch : FixturePatch) (universeOffset : Int32)
    : List ChannelProgram → Option String
  | [] => some ""
  | program :: programs => do
    let issue ← programIssue patch universeOffset program
    if issue ≠ "" then return issue
    programsIssue patch universeOffset programs

def validateResolvedAddresses (patch : FixturePatch) (fixture : CompiledGdtfFixtureType)
    (universeOffset : Int32) : Option String := do
  let base ← baseUniverse patch
  let representative := base.toInt + universeOffset.toInt
  if representative < 0 ∨ 32767 < representative then
    return "Resolved fixture universe is outside the Art-Net Port-Address range."
  programsIssue patch universeOffset fixture.channelPrograms

def makeSource (universeId address : Int32) (entry : Int32 × Nat)
    : Option CompiledDmxByteSource := do
  let sum ← addChecked address entry.1
  return ⟨universeId, ← subChecked sum 2, Int32.ofNat entry.2⟩

def makeSources (patch : FixturePatch) (artnetUniverse : Int32) (program : ChannelProgram)
    : Option (List CompiledDmxByteSource) := do
  let entry ← sourcePatch patch program.dmxBreak
  let base ← baseUniverse patch
  let distance ← subChecked artnetUniverse base
  let resolved ← addChecked entry.mvrUniverse distance
  program.dmxOffsetsOneBased.zipIdx.mapM (makeSource resolved entry.address)

end Peraviz.Gdtf

namespace Peraviz.Gdtf

open CheckedInt

/-- A child of an Addresses element, with the text that `GetText` finds in it. -/
structure AddressElement where
  name : String
  attributes : List (String × String) := []
  text : Option String := none

structure ContainerElement where
  name : String
  children : List AddressElement := []

namespace AddressElement

def attributeText (e : AddressElement) (name : String) : Option String :=
  e.attributes.lookup name

def breakText (e : AddressElement) : Option String :=
  (e.attributeText "break").or (e.attributeText "Break")

def addressText (e : AddressElement) : List Char :=
  trimChars (e.text.getD "").toList

end AddressElement

def fail (patch : FixturePatch) : FixturePatch :=
  { patch with dmxImportError :=
    "Invalid, duplicate or contradictory MVR Address declaration; fixture bindings withheld." }

def authorityNames : List String :=
  ["universe", "address", "absoluteaddress", "dmxaddress"]

def divChecked (a b : Int32) : Option Int32 :=
  if b = 0 then none else narrow (a.toInt.tdiv b.toInt)

def modChecked (a b : Int32) : Option Int32 :=
  if b = 0 then none else narrow (a.toInt.tmod b.toInt)

-- whatever is thrown, the whole declaration fails with one message
def numberField (raw : List Char) (minimum : Int32) : Checked Unit Int32 :=
  match patchNumber raw minimum with
  | some value => return value
  | none => throw ()

def absoluteAddress (absolute : Int32) : Option (Int32 × Int32) := do
  let index ← subChecked absolute 1
  let mvrUniverse ← addChecked 1 (← divChecked index 512)
  let address ← addChecked 1 (← modChecked index 512)
  return (mvrUniverse, address)

def readAddress (text : List Char) : Checked Unit (Int32 × Int32) := do
  if '.' ∉ text then
    let absolute ← numberField text 1
    ExceptT.lift (absoluteAddress absolute)
  else
    let mvrUniverse ← numberField (text.takeWhile (· ≠ '.')) 1
    let address ← numberField (text.dropWhile (· ≠ '.')).tail 1
    if 512 < address then throw () else return (mvrUniverse, address)

def readBreak (node : AddressElement) : Checked Unit Int32 :=
  if (node.attributeText "break").isSome ∧ (node.attributeText "Break").isSome then
    throw ()
  else
    match node.breakText with
    | none => return 0
    | some id => numberField id.toList 0

def readEntry (node : AddressElement) (seen : List Int32) (order : Nat)
    : Checked Unit FixturePatchAddress := do
  let mvrBreak ← readBreak node
  if mvrBreak ∈ seen then throw ()
  else
    let place ← readAddress node.addressText
    -- an attribute with an address contradicts the text
    if node.attributes.any (fun entry => lowerAscii entry.1 ∈ authorityNames) = true then throw ()
    else return {
      mvrBreak, mvrUniverse := place.1, address := place.2, order := Int32.ofNat order
      explicitBreak := node.breakText.isSome }

def appendAddress (patch : FixturePatch) (entry : FixturePatchAddress) : FixturePatch :=
  let patch := { patch with addresses := patch.addresses ++ [entry] }
  if entry.mvrBreak = 0 then
    { patch with mvrUniverse := entry.mvrUniverse, mvrAddress := entry.address }
  else patch

/-- `none` is an integer overflow. -/
def readAddresses (patch : FixturePatch) (seen : List Int32) : List AddressElement →
    Option FixturePatch
  | [] =>
    if patch.addresses = [] then some (fail patch) else some patch
  | node :: nodes => do
    match ← (readEntry node seen patch.addresses.length).run with
    | .error _ => return fail patch
    | .ok entry => readAddresses (appendAddress patch entry) (entry.mvrBreak :: seen) nodes

def readMvrPatchAddresses (fixture : List ContainerElement) (patch : FixturePatch)
    : Option FixturePatch :=
  match fixture.filter (fun e => e.name = "Addresses") with
  | [] => some patch
  | container :: rest =>
    let patch := { patch with mvrUniverse := -1, mvrAddress := -1 }
    if rest ≠ [] then some (fail patch)
    else readAddresses patch [] (container.children.filter (fun e => e.name = "Address"))

/-- A complete decimal spelling of a number. -/
def IsNumeral (cs : List Char) (n : Int) : Prop :=
  cs ≠ [] ∧ (∀ c ∈ cs, c.isDigit = true) ∧ (decimal cs : Int) = n

structure Places (text : List Char) (place : Int32 × Int32) : Prop where
  mvrUniverse : 1 ≤ place.1.toInt
  address : 1 ≤ place.2.toInt ∧ place.2.toInt ≤ 512
  absolute : '.' ∉ text → IsNumeral text ((place.1.toInt - 1) * 512 + place.2.toInt)
  dotted : ∀ u a, text = u ++ '.' :: a → '.' ∉ u →
    IsNumeral (trimChars u) place.1.toInt ∧ IsNumeral (trimChars a) place.2.toInt

/-- What an entry says about the element it is read from. -/
structure ReadsAs (node : AddressElement) (entry : FixturePatchAddress) : Prop where
  mvrBreak : (node.breakText = none ∧ entry.mvrBreak = 0)
    ∨ ∃ id, node.breakText = some id ∧ patchNumber id.toList 0 = some entry.mvrBreak
  explicitBreak : entry.explicitBreak = node.breakText.isSome
  places : Places node.addressText (entry.mvrUniverse, entry.address)

theorem ensures_numberField (raw : List Char) (minimum : Int32)
    : Ensures (numberField raw minimum) (fun value => patchNumber raw minimum = some value) := by
  unfold numberField
  cases h : patchNumber raw minimum with
  | none => exact Ensures.throw
  | some value => exact Ensures.pure rfl

theorem isNumeral_of_patchNumber {raw : List Char} {value : Int32}
    (h : patchNumber raw 1 = some value)
    : IsNumeral (trimChars raw) value.toInt ∧ 1 ≤ value.toInt := by
  obtain ⟨hparsed, hone⟩ := patchNumber_eq_some h
  obtain ⟨hne, hdigits, hvalue⟩ := fromChars_eq_some hparsed hone
  exact ⟨⟨hne, hdigits, hvalue.symm⟩, hone⟩

theorem defined_absoluteAddress {absolute : Int32} (h : 1 ≤ absolute.toInt)
    : Defined (absoluteAddress absolute) (fun place =>
        1 ≤ place.1.toInt ∧ 1 ≤ place.2.toInt ∧ place.2.toInt ≤ 512
          ∧ (place.1.toInt - 1) * 512 + place.2.toInt = absolute.toInt) := by
  have hupper := absolute.toInt_lt
  have hunit : (1 : Int32).toInt = 1 := rfl
  have h512 : (512 : Int32).toInt = 512 := rfl
  have hne : (512 : Int32) ≠ 0 := by decide
  apply Defined.bind (defined_subChecked (by omega))
  intro index hindex
  have hquotient : index.toInt.tdiv 512 = (absolute.toInt - 1) / 512 := by
    rw [hindex, hunit, Int.tdiv_eq_ediv_of_nonneg (by omega)]
  have hremainder : index.toInt.tmod 512 = (absolute.toInt - 1) % 512 := by
    rw [hindex, hunit, Int.tmod_eq_emod_of_nonneg (by omega)]
  have hdiv : Defined (divChecked index 512) (fun q => q.toInt = (absolute.toInt - 1) / 512) := by
    rw [divChecked, if_neg hne, h512, hquotient]
    apply defined_narrow
    omega
  have hmod : Defined (modChecked index 512) (fun r => r.toInt = (absolute.toInt - 1) % 512) := by
    rw [modChecked, if_neg hne, h512, hremainder]
    apply defined_narrow
    omega
  apply Defined.bind hdiv
  intro quotient hq
  apply Defined.bind (defined_addChecked (by omega))
  intro mvrUniverse huniverse
  apply Defined.bind hmod
  intro remainder hr
  apply Defined.bind (defined_addChecked (by omega))
  intro address haddress
  apply Defined.pure
  dsimp only
  omega

theorem ensures_readAddress (node : AddressElement)
    : Ensures (readAddress node.addressText) (Places node.addressText) := by
  have htrim : trimChars node.addressText = node.addressText := trimChars_trimChars _
  unfold readAddress
  split
  . next hdot =>
    apply Ensures.bind (ensures_numberField _ _)
    intro absolute habsolute
    obtain ⟨hnumeral, hone⟩ := isNumeral_of_patchNumber habsolute
    rw [htrim] at hnumeral
    apply Ensures.lift
    apply Defined.mono (defined_absoluteAddress hone)
    intro place hplace
    obtain ⟨hu, ha, hle, hsum⟩ := hplace
    refine ⟨hu, ⟨ha, hle⟩, ?_, ?_⟩
    . intro _
      rw [hsum]
      exact hnumeral
    . intro u a htext _
      apply absurd _ hdot
      rw [htext]
      simp
  . next hdot =>
    apply Ensures.bind (ensures_numberField _ _)
    intro mvrUniverse huniverse
    apply Ensures.bind (ensures_numberField _ _)
    intro address haddress
    obtain ⟨hnumeral, hone⟩ := isNumeral_of_patchNumber huniverse
    obtain ⟨hnumeral', hone'⟩ := isNumeral_of_patchNumber haddress
    split
    . exact Ensures.throw
    . next hle =>
      apply Ensures.pure
      have h512 : (512 : Int32).toInt = 512 := rfl
      have hupper := Int32.le_iff_toInt_le.mp (Int32.not_lt.mp hle)
      refine ⟨hone, ⟨hone', by dsimp only; omega⟩, ?_, ?_⟩
      . intro hnot
        exact absurd hnot hdot
      . intro u a htext hu
        have hall : ∀ c ∈ u, decide (c ≠ '.') = true := by
          intro c hc
          apply decide_eq_true
          intro heq
          exact hu (heq ▸ hc)
        have htake : node.addressText.takeWhile (· ≠ '.') = u := by
          rw [htext, List.takeWhile_append_of_pos hall]
          simp
        have hdrop : (node.addressText.dropWhile (· ≠ '.')).tail = a := by
          rw [htext, List.dropWhile_append_of_pos hall]
          simp
        rw [htake] at hnumeral
        rw [hdrop] at hnumeral'
        exact ⟨hnumeral, hnumeral'⟩

theorem ensures_readBreak (node : AddressElement)
    : Ensures (readBreak node) (fun mvrBreak => (node.breakText = none ∧ mvrBreak = 0)
        ∨ ∃ id, node.breakText = some id ∧ patchNumber id.toList 0 = some mvrBreak) := by
  unfold readBreak
  split
  . exact Ensures.throw
  . split
    . next hid =>
      apply Ensures.pure
      left
      exact ⟨hid, rfl⟩
    . next id hid =>
      apply Ensures.mono (ensures_numberField _ _)
      intro mvrBreak hbreak
      right
      exact ⟨id, hid, hbreak⟩

theorem ensures_readEntry (node : AddressElement) (seen : List Int32) (order : Nat)
    : Ensures (readEntry node seen order) (fun entry => ReadsAs node entry
        ∧ entry.mvrBreak ∉ seen ∧ entry.order = Int32.ofNat order) := by
  unfold readEntry
  apply Ensures.bind (ensures_readBreak node)
  intro mvrBreak hbreak
  split
  . exact Ensures.throw
  . next hseen =>
    apply Ensures.bind (ensures_readAddress node)
    intro place hplace
    split
    . exact Ensures.throw
    . apply Ensures.pure
      exact ⟨⟨hbreak, rfl, hplace⟩, hseen, rfl⟩

/-- What the reader has made of a list of Address children: one entry for each of them, under
distinct breaks, and the scalar fields of the patch are those of break 0. -/
structure AcceptedAddresses (nodes : List AddressElement) (patch : FixturePatch) : Prop where
  entries : List.Forall₂ ReadsAs nodes patch.addresses
  breaks : (patch.addresses.map FixturePatchAddress.mvrBreak).Nodup
  orders : patch.addresses.map FixturePatchAddress.order
    = (List.range patch.addresses.length).map Int32.ofNat
  primary : ∀ entry ∈ patch.addresses, entry.mvrBreak = 0 →
    patch.mvrUniverse = entry.mvrUniverse ∧ patch.mvrAddress = entry.address
  absent : (∀ entry ∈ patch.addresses, entry.mvrBreak ≠ 0) →
    patch.mvrUniverse = -1 ∧ patch.mvrAddress = -1

theorem addresses_appendAddress (patch : FixturePatch) (entry : FixturePatchAddress)
    : (appendAddress patch entry).addresses = patch.addresses ++ [entry] := by
  unfold appendAddress
  dsimp only
  split <;> rfl

theorem dmxImportError_appendAddress (patch : FixturePatch) (entry : FixturePatchAddress)
    : (appendAddress patch entry).dmxImportError = patch.dmxImportError := by
  unfold appendAddress
  dsimp only
  split <;> rfl

theorem acceptedAddresses_append {nodes : List AddressElement} {patch : FixturePatch}
    {node : AddressElement} {entry : FixturePatchAddress} (h : AcceptedAddresses nodes patch)
    (hreads : ReadsAs node entry)
    (hnew : entry.mvrBreak ∉ patch.addresses.map FixturePatchAddress.mvrBreak)
    (horder : entry.order = Int32.ofNat patch.addresses.length)
    : AcceptedAddresses (nodes ++ [node]) (appendAddress patch entry) := by
  constructor
  . rw [addresses_appendAddress]
    exact List.rel_append h.entries (List.Forall₂.cons hreads List.Forall₂.nil)
  . rw [addresses_appendAddress, List.map_append, List.nodup_append]
    refine ⟨h.breaks, List.nodup_singleton _, ?_⟩
    intro a ha b hb heq
    rw [List.map_singleton, List.mem_singleton] at hb
    rw [heq, hb] at ha
    exact hnew ha
  . rw [addresses_appendAddress, List.map_append, h.orders, List.length_append,
      List.length_singleton, List.range_succ, List.map_append, List.map_singleton,
      List.map_singleton, horder]
  . intro other hother hzero
    rw [addresses_appendAddress, List.mem_append, List.mem_singleton] at hother
    cases hother with
    | inl hold =>
      have hnonzero : entry.mvrBreak ≠ 0 := by
        intro heq
        apply hnew
        rw [heq, ← hzero]
        exact List.mem_map_of_mem hold
      unfold appendAddress
      rw [if_neg hnonzero]
      exact h.primary other hold hzero
    | inr heq =>
      unfold appendAddress
      rw [← heq, if_pos hzero]
      exact ⟨rfl, rfl⟩
  . intro hall
    rw [addresses_appendAddress] at hall
    have hnonzero : entry.mvrBreak ≠ 0 := hall entry (by simp)
    unfold appendAddress
    rw [if_neg hnonzero]
    apply h.absent
    intro other hother
    apply hall
    simp [hother]

def Withheld (patch : FixturePatch) : Prop :=
  patch.dmxImportError ≠ ""

theorem withheld_fail (patch : FixturePatch) : Withheld (fail patch) := by
  unfold Withheld fail
  simp

theorem defined_readAddresses {done nodes : List AddressElement} {patch : FixturePatch}
    {seen : List Int32} (hdone : AcceptedAddresses done patch)
    (hseen : ∀ mvrBreak, mvrBreak ∈ seen
      ↔ mvrBreak ∈ patch.addresses.map FixturePatchAddress.mvrBreak)
    : Defined (readAddresses patch seen nodes) (fun result =>
        Withheld result
          ∨ result.dmxImportError = patch.dmxImportError ∧ result.addresses ≠ []
            ∧ AcceptedAddresses (done ++ nodes) result) := by
  induction nodes generalizing done patch seen with
  | nil =>
    unfold readAddresses
    split
    . apply Defined.pure
      left
      exact withheld_fail patch
    . next hne =>
      apply Defined.pure
      right
      rw [List.append_nil]
      exact ⟨rfl, hne, hdone⟩
  | cons node nodes ih =>
    obtain ⟨outcome, houtcome, hentry⟩ := ensures_readEntry node seen patch.addresses.length
    unfold readAddresses
    rw [houtcome]
    cases outcome with
    | error _ =>
      apply Defined.pure
      left
      exact withheld_fail patch
    | ok entry =>
      obtain ⟨hreads, hnew, horder⟩ := hentry entry rfl
      rw [hseen] at hnew
      have hstep := acceptedAddresses_append hdone hreads hnew horder
      have hresult := @ih _ _ (entry.mvrBreak :: seen) hstep (by
        intro mvrBreak
        rw [addresses_appendAddress, List.map_append, List.mem_append, List.mem_cons, hseen]
        rw [List.map_singleton, List.mem_singleton]
        exact or_comm)
      rw [dmxImportError_appendAddress, List.append_assoc] at hresult
      exact hresult

/-- The fixture is withheld, or its one Addresses element is read child by child. -/
theorem readMvrPatchAddresses_correct {fixture : List ContainerElement} {patch : FixturePatch}
    (hcontainer : ∃ e ∈ fixture, e.name = "Addresses")
    (hfresh : patch.addresses = [] ∧ patch.dmxImportError = "")
    : Defined (readMvrPatchAddresses fixture patch) (fun result =>
        Withheld result
          ∨ ∃ container, fixture.filter (fun e => e.name = "Addresses") = [container]
            ∧ ¬Withheld result ∧ result.addresses ≠ []
            ∧ AcceptedAddresses (container.children.filter (fun e => e.name = "Address"))
              result) := by
  unfold readMvrPatchAddresses
  split
  . next hnone =>
    obtain ⟨e, he, hname⟩ := hcontainer
    rw [List.filter_eq_nil_iff] at hnone
    exact absurd (decide_eq_true hname) (hnone e he)
  . next container rest hfilter =>
    dsimp only
    split
    . apply Defined.pure
      left
      exact withheld_fail _
    . next hrest =>
      have hrest := not_not.mp hrest
      have hempty : AcceptedAddresses []
          { patch with mvrUniverse := -1, mvrAddress := -1 } := by
        constructor
        . rw [hfresh.1]
          exact List.Forall₂.nil
        . rw [hfresh.1]
          exact List.nodup_nil
        . rw [hfresh.1]
          rfl
        . rw [hfresh.1]
          intro entry h
          cases h
        . intro _
          exact ⟨rfl, rfl⟩
      apply Defined.mono (@defined_readAddresses _ _ _ [] hempty (by simp [hfresh.1]))
      intro result hresult
      cases hresult with
      | inl herror =>
        left
        exact herror
      | inr haccepted =>
        right
        refine ⟨container, by rw [hfilter, hrest], ?_, haccepted.2.1, haccepted.2.2⟩
        intro herror
        apply herror
        rw [haccepted.1]
        exact hfresh.2

def twoAddresses : List ContainerElement :=
  [⟨"Addresses", [⟨"Address", [], some " 513 "⟩, ⟨"Address", [("break", "1")], some "3.12"⟩]⟩]

theorem readMvrPatchAddresses_twoAddresses
    : (readMvrPatchAddresses twoAddresses {}).map (fun patch => patch.addresses.map (fun entry =>
        (entry.mvrBreak, entry.mvrUniverse, entry.address))) = some [(0, 2, 1), (1, 3, 12)]
      ∧ Defined (readMvrPatchAddresses twoAddresses {}) (fun result =>
        Withheld result
          ∨ ∃ container, twoAddresses.filter (fun e => e.name = "Addresses") = [container]
            ∧ ¬Withheld result ∧ result.addresses ≠ []
            ∧ AcceptedAddresses (container.children.filter (fun e => e.name = "Address"))
              result) :=
  ⟨by decide +kernel, readMvrPatchAddresses_correct (by simp [twoAddresses]) ⟨rfl, rfl⟩⟩

end Peraviz.Gdtf
