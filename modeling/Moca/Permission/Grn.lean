/-
# The names of resources

`types/grn.go` and `types/s3util/s3util.go`.  A resource is named by a text of four parts
between colons:

    grn:b::bucket          grn:o::bucket/object          grn:g:owner:group

`String` joins the parts and trims one colon at the end; `ParseFromString` splits them with
a regular expression whose last part holds no colon and, without wildcards, no star.  The
checks on the names of objects and groups allow both.  So a name is read back exactly if it
holds neither, and two resources share a name if they differ by one colon at the end
(`grn_names`).

Texts are lists of characters: a name that is not UTF-8 fails the checks.  The `error`
values keep the check that failed and not its text.
-/

import Moca.Permission.Types
import Mathlib.Data.List.DropRight

namespace Moca.Permission

abbrev Text := List Char

/-! ### Names -/

/-- `unicode.IsSpace`. -/
def isSpace (c : Char) : Bool :=
  decide (c.toNat ∈ [0x09, 0x0A, 0x0B, 0x0C, 0x0D, 0x20, 0x85, 0xA0, 0x1680, 0x2028, 0x2029,
    0x202F, 0x205F, 0x3000]) || decide (0x2000 ≤ c.toNat ∧ c.toNat ≤ 0x200A)

/-- `strings.TrimSpace`. -/
def trimSpace (t : Text) : Text := (t.dropWhile isSpace).rdropWhile isSpace

/-- `len`: the bytes of the UTF-8 encoding. -/
def byteLength (t : Text) : ℕ := (t.map Char.utf8Size).sum

inductive NameError
  | empty
  | tooShort
  | tooLong
  | ipAddress
  | invalidCharacters
  | badPathComponent
  | doubleSlash
  deriving DecidableEq

/-- `[a-z0-9]`. -/
def isLowerOrDigit (c : Char) : Bool := c.isLower || c.isDigit

/-- `ipAddress`: four numbers between dots. -/
def isIPAddress (t : Text) : Bool :=
  let parts := t.splitOn '.'
  decide (parts.length = 4) && parts.all fun part => !part.isEmpty && part.all Char.isDigit

/-- `validBucketName`. -/
def isBucketText (t : Text) : Bool :=
  decide (3 ≤ t.length ∧ t.length ≤ 63) && t.head?.all isLowerOrDigit &&
    t.getLast?.all isLowerOrDigit && t.all fun c => isLowerOrDigit c || c == '.' || c == '-'

/-- `CheckValidBucketName`. -/
def checkValidBucketName (bucketName : Text) : Except NameError Unit :=
  if byteLength bucketName = 0 ∨ trimSpace bucketName = [] then throw .empty
  else if byteLength bucketName < 3 then throw .tooShort
  else if 63 < byteLength bucketName then throw .tooLong
  else if isIPAddress bucketName then throw .ipAddress
  else if ['.', '.'] <:+: bucketName ∨ ['.', '-'] <:+: bucketName ∨ ['-', '.'] <:+: bucketName then
    throw .invalidCharacters
  else if isBucketText bucketName then pure () else throw .invalidCharacters

/-- `hasBadPathComponent`. -/
def hasBadPathComponent (path : Text) : Bool :=
  ((trimSpace path).splitOn '/').any fun p => decide (trimSpace p ∈ [['.', '.'], ['.']])

/-- `CheckValidObjectName`. -/
def checkValidObjectName (objectName : Text) : Except NameError Unit :=
  if byteLength objectName = 0 ∨ trimSpace objectName = [] then throw .empty
  else if 1024 < byteLength objectName then throw .tooLong
  else if hasBadPathComponent objectName then throw .badPathComponent
  else if ['/', '/'] <:+: objectName then throw .doubleSlash
  else pure ()

/-- `CheckValidGroupName`. -/
def checkValidGroupName (groupName : Text) : Except NameError Unit :=
  if byteLength groupName = 0 ∨ trimSpace groupName = [] then throw .empty
  else if byteLength groupName < 3 then throw .tooShort
  else if 63 < byteLength groupName then throw .tooLong
  else pure ()

variable {t : Text} {c : Char}

section

variable (h : checkValidBucketName t = .ok ())
include h

/-- A bucket name holds only lower letters, digits, dots and dashes. -/
theorem mem_of_checkValidBucketName (hc : c ∈ t) : isLowerOrDigit c = true ∨ c = '.' ∨ c = '-' := by
  unfold checkValidBucketName at h
  split_ifs at h with _ _ _ _ _ htext
  simp only [isBucketText, Bool.and_eq_true, List.all_eq_true] at htext
  simpa [or_assoc] using htext.2 c hc

theorem notMem_of_checkValidBucketName (hc : c ∈ [':', '*', '/']) : c ∉ t := by
  intro hmem
  have hall := mem_of_checkValidBucketName h hmem
  simp only [List.mem_cons, List.not_mem_nil, or_false] at hc
  rcases hc with rfl | rfl | rfl <;> revert hall <;> decide

theorem ne_nil_of_checkValidBucketName : t ≠ [] := by
  rintro rfl
  exact absurd h (by decide)

end

theorem ne_nil_of_checkValidObjectName (h : checkValidObjectName t = .ok ()) : t ≠ [] := by
  rintro rfl
  exact absurd h (by decide)

theorem ne_nil_of_checkValidGroupName (h : checkValidGroupName t = .ok ()) : t ≠ [] := by
  rintro rfl
  exact absurd h (by decide)

/-! ### Printing and parsing -/

/-- The text of an address, which belongs to the SDK: `String` and `AccAddressFromHexUnsafe`. -/
structure AddressCodec where
  toText : AccAddress → Text
  ofText : Text → Option AccAddress
  ofText_toText : ∀ a, ofText (toText a) = some a
  colon_notMem : ∀ a, ':' ∉ toText a

theorem AddressCodec.toText_injective (codec : AddressCodec) :
    Function.Injective codec.toText := fun a b h =>
  Option.some.inj <| (codec.ofText_toText a).symm.trans ((congrArg _ h).trans (codec.ofText_toText b))

/-- `GRN`. -/
structure GRN where
  resType : ResourceType
  groupOwner : Option AccAddress := none
  name : Text
  deriving DecidableEq

inductive GrnError
  | regexMatch
  | accNotEmpty
  | slashInBucketName
  | groupOwner
  | noObjectName
  | typeMismatch
  | invalidName (err : NameError)
  deriving DecidableEq

/-- `NewBucketGRN`. -/
def newBucketGRN (bucketName : Text) : GRN := { resType := .bucket, name := bucketName }

/-- `NewObjectGRN`. -/
def newObjectGRN (bucketName objectName : Text) : GRN :=
  { resType := .object, name := ['/'].intercalate [bucketName, objectName] }

/-- `NewGroupGRN`. -/
def newGroupGRN (owner : AccAddress) (groupName : Text) : GRN :=
  { resType := .group, groupOwner := some owner, name := groupName }

/-- `strings.TrimSuffix` of a colon. -/
def trimColon (t : Text) : Text := if t.getLast? = some ':' then t.dropLast else t

/-- The parts that `String` joins; an address that is not set has no text. -/
def GRN.parts (codec : AddressCodec) (r : GRN) : List Text :=
  match r.resType with
  | .bucket => [['g', 'r', 'n'], ['b'], [], r.name]
  | .object => [['g', 'r', 'n'], ['o'], [], r.name]
  | .group => [['g', 'r', 'n'], ['g'], (r.groupOwner.map codec.toText).getD [], r.name]
  | .unspecified => []

/-- `GRN.String`. -/
def GRN.string (codec : AddressCodec) (r : GRN) : Text :=
  trimColon ([':'].intercalate (r.parts codec))

/-- A check on a name, inside an invalid resource name. -/
def inName (x : Except NameError Unit) : Except GrnError Unit :=
  match x with
  | .ok () => .ok ()
  | .error err => .error (.invalidName err)

/-- Names with wildcards are not checked. -/
def checkUnless (wildcards : Bool) (x : Except NameError Unit) : Except GrnError Unit :=
  if wildcards then .ok () else inName x

/-- `parseBucketAndObjectName`: the bucket is what stands before the first slash. -/
def parseBucketAndObjectName (name : Text) : Except GrnError (Text × Text) :=
  match name.splitOn '/' with
  | bucketName :: _ :: _ =>
    match name.dropPrefix? (bucketName ++ ['/']) with
    | none => throw .noObjectName
    | some objectName => do
      inName (checkValidBucketName bucketName)
      inName (checkValidObjectName objectName)
      pure (bucketName, objectName)
  | _ => throw .noObjectName

/-- The switch of `ParseFromString` on the abbreviation of the type. -/
def parseParts (codec : AddressCodec) (abbr acc name : Text) (wildcards : Bool) :
    Except GrnError GRN :=
  if abbr = ['b'] then
    if acc ≠ [] then throw .accNotEmpty
    else if '/' ∈ name then throw .slashInBucketName
    else do
      checkUnless wildcards (checkValidBucketName name)
      pure { resType := .bucket, name }
  else if abbr = ['o'] then
    if acc ≠ [] then throw .accNotEmpty
    else do
      let _ ← parseBucketAndObjectName name
      pure { resType := .object, name }
  else if abbr = ['g'] then
    match codec.ofText acc with
    | none => throw .groupOwner
    | some owner => do
      checkUnless wildcards (checkValidGroupName name)
      pure { resType := .group, groupOwner := some owner, name }
  else throw .regexMatch

/-- `GRN.ParseFromString`.  The regular expression asks for four parts without a colon, of
which the last has no star unless wildcards are allowed. -/
def parseFromString (codec : AddressCodec) (res : Text) (wildcards : Bool) : Except GrnError GRN :=
  match res.splitOn ':' with
  | [grn, abbr, acc, name] =>
    if grn ≠ ['g', 'r', 'n'] ∨ (wildcards = false ∧ '*' ∈ name) then throw .regexMatch
    else parseParts codec abbr acc name wildcards
  | _ => throw .regexMatch

/-- A resource by its names. -/
inductive NamedResource
  | bucket (bucketName : Text)
  | object (bucketName objectName : Text)
  | group (owner : AccAddress) (groupName : Text)
  deriving DecidableEq

/-- `GetBucketName`, `GetBucketAndObjectName` or `GetGroupOwnerAndAccount`, whichever fits the
type. -/
def GRN.resource (r : GRN) : Except GrnError NamedResource :=
  match r.resType, r.groupOwner with
  | .bucket, _ => pure (.bucket r.name)
  | .object, _ => do
    let (bucketName, objectName) ← parseBucketAndObjectName r.name
    pure (.object bucketName objectName)
  | .group, some owner => pure (.group owner r.name)
  | _, _ => throw .typeMismatch

/-- The resource a text names, without wildcards. -/
def readResource (codec : AddressCodec) (res : Text) : Except GrnError NamedResource := do
  let r ← parseFromString codec res false
  r.resource

namespace NamedResource

def grn : NamedResource → GRN
  | bucket bucketName => newBucketGRN bucketName
  | object bucketName objectName => newObjectGRN bucketName objectName
  | group owner groupName => newGroupGRN owner groupName

/-- The names of the resource pass their checks. -/
def Valid : NamedResource → Prop
  | bucket bucketName => checkValidBucketName bucketName = .ok ()
  | object bucketName objectName =>
    checkValidBucketName bucketName = .ok () ∧ checkValidObjectName objectName = .ok ()
  | group _ groupName => checkValidGroupName groupName = .ok ()

instance (r : NamedResource) : Decidable r.Valid := by
  cases r <;> unfold Valid <;> infer_instance

/-- The name of the resource itself. -/
def ownName : NamedResource → Text
  | bucket bucketName => bucketName
  | object _ objectName => objectName
  | group _ groupName => groupName

/-- What `String` writes before the name of the resource itself. -/
def header (codec : AddressCodec) : NamedResource → Text
  | bucket _ => ['g', 'r', 'n', ':', 'b', ':', ':']
  | object bucketName _ => ['g', 'r', 'n', ':', 'o', ':', ':'] ++ (bucketName ++ ['/'])
  | group owner _ => ['g', 'r', 'n', ':', 'g', ':'] ++ (codec.toText owner ++ [':'])

/-- The resource whose name has one more colon. -/
def withColon : NamedResource → NamedResource
  | bucket bucketName => bucket (bucketName ++ [':'])
  | object bucketName objectName => object bucketName (objectName ++ [':'])
  | group owner groupName => group owner (groupName ++ [':'])

/-- The other resource is this one with a colon at the end of its name, which has none. -/
def Shadows (r₁ r₂ : NamedResource) : Prop := r₁.ownName.getLast? ≠ some ':' ∧ r₂ = r₁.withColon

end NamedResource

/-! ### Reading back -/

section ReadBack

variable {codec : AddressCodec} {t₁ t₂ res name : Text} {r r₁ r₂ : NamedResource}

theorem getLast?_append_of_ne_nil {α : Type*} {l t : List α} (h : t ≠ []) :
    (l ++ t).getLast? = t.getLast? := by
  rw [List.getLast?_append, List.getLast?_eq_some_getLast h, Option.some_or]

theorem trimColon_append {l : Text} (h : t ≠ []) : trimColon (l ++ t) = l ++ trimColon t := by
  unfold trimColon
  rw [getLast?_append_of_ne_nil h, List.dropLast_append_of_ne_nil h]
  split_ifs <;> rfl

theorem trimColon_of_notMem (h : ':' ∉ t) : trimColon t = t :=
  if_neg fun hlast => h (List.mem_of_getLast? hlast)

/-- Trimming loses one colon and nothing else. -/
theorem eq_or_of_trimColon_eq (h : trimColon t₁ = trimColon t₂) :
    t₁ = t₂ ∨ (t₁.getLast? ≠ some ':' ∧ t₂ = t₁ ++ [':']) ∨
      (t₂.getLast? ≠ some ':' ∧ t₁ = t₂ ++ [':']) := by
  unfold trimColon at h
  split_ifs at h with h₁ h₂ h₂
  · left
    rw [← List.dropLast_append_getLast? _ h₁, h, List.dropLast_append_getLast? _ h₂]
  · right; right
    exact ⟨h₂, by rw [← h, List.dropLast_append_getLast? _ h₁]⟩
  · right; left
    exact ⟨h₁, by rw [h, List.dropLast_append_getLast? _ h₂]⟩
  · exact .inl h

theorem trimColon_append_colon (h : t.getLast? ≠ some ':') :
    trimColon (t ++ [':']) = trimColon t := by
  simp [trimColon, h]

theorem NamedResource.Valid.ownName_ne_nil (h : r.Valid) : r.ownName ≠ [] := by
  cases r with
  | bucket bucketName => exact ne_nil_of_checkValidBucketName h
  | object bucketName objectName => exact ne_nil_of_checkValidObjectName h.2
  | group owner groupName => exact ne_nil_of_checkValidGroupName h

theorem NamedResource.intercalate_parts (r : NamedResource) :
    [':'].intercalate (r.grn.parts codec) = r.header codec ++ r.ownName := by
  cases r <;> simp [grn, header, ownName, newBucketGRN, newObjectGRN, newGroupGRN, GRN.parts,
    List.intercalate]

theorem NamedResource.string_eq (h : r.Valid) :
    r.grn.string codec = r.header codec ++ trimColon r.ownName := by
  rw [← trimColon_append h.ownName_ne_nil, ← intercalate_parts]
  rfl

/-- A text up to a separator it does not hold is determined by the whole. -/
theorem append_separator_inj {l₁ l₂ : Text} (h₁ : c ∉ l₁) (h₂ : c ∉ l₂)
    (h : l₁ ++ c :: t₁ = l₂ ++ c :: t₂) : l₁ = l₂ ∧ t₁ = t₂ := by
  have hsplit := congrArg (List.splitOn c) h
  rw [List.splitOn_append_cons_self_of_not_mem h₁, List.splitOn_append_cons_self_of_not_mem h₂]
    at hsplit
  obtain rfl := (List.cons.inj hsplit).1
  exact ⟨rfl, (List.cons.inj (List.append_cancel_left h)).2⟩

/-- A header with what follows it determines both. -/
theorem NamedResource.header_append_inj (h₁ : r₁.Valid) (h₂ : r₂.Valid)
    (h : r₁.header codec ++ t₁ = r₂.header codec ++ t₂) :
    r₁.header codec = r₂.header codec ∧ t₁ = t₂ := by
  cases r₁ <;> cases r₂ <;> simp only [header, List.cons_append, List.nil_append, List.cons.injEq,
    List.append_assoc, Char.reduceEq, true_and, false_and, and_false] at h ⊢
  case bucket.bucket => exact h
  case object.object b₁ _ b₂ _ =>
    obtain ⟨rfl, rfl⟩ := append_separator_inj
      (notMem_of_checkValidBucketName h₁.1 (by simp)) (notMem_of_checkValidBucketName h₂.1 (by simp)) h
    exact ⟨rfl, rfl⟩
  case group.group o₁ _ o₂ _ =>
    obtain ⟨howner, rfl⟩ := append_separator_inj (codec.colon_notMem o₁) (codec.colon_notMem o₂) h
    exact ⟨by rw [howner], rfl⟩

/-- A header and a name determine the resource. -/
theorem NamedResource.eq_of_header (h : r₁.header codec = r₂.header codec)
    (hname : r₁.ownName = r₂.ownName) : r₁ = r₂ := by
  cases r₁ <;> cases r₂ <;> simp [header, ownName] at h hname ⊢
  case bucket.bucket => exact hname
  case object.object => exact ⟨h, hname⟩
  case group.group => exact ⟨codec.toText_injective h, hname⟩

@[simp] theorem NamedResource.header_withColon (r : NamedResource) :
    r.withColon.header codec = r.header codec := by
  cases r <;> rfl

@[simp] theorem NamedResource.ownName_withColon (r : NamedResource) :
    r.withColon.ownName = r.ownName ++ [':'] := by
  cases r <;> rfl

/-- Two resources share their text exactly if they are one, or differ by a colon at the end. -/
theorem NamedResource.string_eq_iff (h₁ : r₁.Valid) (h₂ : r₂.Valid) :
    r₁.grn.string codec = r₂.grn.string codec ↔ r₁ = r₂ ∨ r₁.Shadows r₂ ∨ r₂.Shadows r₁ := by
  rw [string_eq h₁, string_eq h₂]
  constructor
  · intro h
    obtain ⟨hheader, htrim⟩ := header_append_inj h₁ h₂ h
    rcases eq_or_of_trimColon_eq htrim with hname | ⟨hlast, hname⟩ | ⟨hlast, hname⟩
    · exact .inl (eq_of_header hheader hname)
    · exact .inr (.inl ⟨hlast, eq_of_header (hheader.symm.trans (header_withColon r₁).symm)
        (hname.trans (ownName_withColon r₁).symm)⟩)
    · exact .inr (.inr ⟨hlast, eq_of_header (hheader.trans (header_withColon r₂).symm)
        (hname.trans (ownName_withColon r₂).symm)⟩)
  · rintro (rfl | ⟨hlast, rfl⟩ | ⟨hlast, rfl⟩)
    · rfl
    · rw [header_withColon, ownName_withColon, trimColon_append_colon hlast]
    · rw [header_withColon, ownName_withColon, trimColon_append_colon hlast]

theorem notMem_of_mem_splitOn {part : Text} (h : part ∈ t.splitOn c) : c ∉ part := by
  induction t generalizing part with
  | nil =>
    rw [List.splitOn_nil, List.mem_singleton] at h
    simp [h]
  | cons d t ih =>
    rw [List.splitOn_cons_eq_if_modifyHead] at h
    split_ifs at h with hd
    · rcases List.mem_cons.1 h with rfl | h
      · simp
      · exact ih h
    · cases hsplit : t.splitOn c with
      | nil => exact absurd hsplit (List.splitOn_ne_nil c t)
      | cons first rest =>
        rw [hsplit, List.modifyHead_cons] at h
        rcases List.mem_cons.1 h with rfl | h
        · have hfirst : c ∉ first := ih (hsplit ▸ List.mem_cons_self)
          have hne : ¬d = c := fun hdc => hd (beq_iff_eq.2 hdc)
          exact fun hmem => (List.mem_cons.1 hmem).elim (hne ·.symm) hfirst
        · exact ih (hsplit ▸ List.mem_cons_of_mem _ h)

theorem parseParts_eq_ok {abbr acc : Text} {r : GRN}
    (h : parseParts codec abbr acc name false = .ok r) : r.name = name := by
  unfold parseParts at h
  split_ifs at h
  · obtain ⟨_, -, h⟩ := bind_eq_ok.1 h
    rw [← pure_eq_ok.1 h]
  · obtain ⟨_, -, h⟩ := bind_eq_ok.1 h
    rw [← pure_eq_ok.1 h]
  · split at h
    · cases h
    · obtain ⟨_, -, h⟩ := bind_eq_ok.1 h
      rw [← pure_eq_ok.1 h]

/-- What the parser accepts is a last part without a colon and without a star. -/
theorem parseFromString_eq_ok {r : GRN} (h : parseFromString codec res false = .ok r) :
    ':' ∉ r.name ∧ '*' ∉ r.name := by
  unfold parseFromString at h
  split at h
  · rename_i grn abbr acc name hsplit
    have hcolon : ':' ∉ name := notMem_of_mem_splitOn (t := res) (by simp [hsplit])
    split_ifs at h with hwild
    rw [parseParts_eq_ok h]
    exact ⟨hcolon, fun hstar => hwild (.inr ⟨rfl, hstar⟩)⟩
  · cases h

theorem parseBucketAndObjectName_eq_ok {names : Text × Text}
    (h : parseBucketAndObjectName name = .ok names) : name = names.1 ++ '/' :: names.2 := by
  unfold parseBucketAndObjectName at h
  split at h
  · split at h
    · cases h
    · rename_i hdrop
      obtain ⟨_, -, h⟩ := bind_eq_ok.1 h
      obtain ⟨_, -, h⟩ := bind_eq_ok.1 h
      cases h
      obtain ⟨l, rfl, hl⟩ := List.dropPrefix?_eq_some_iff.1 hdrop
      simp [eq_of_beq hl]
  · cases h

/-- The parser finds the names that were joined. -/
theorem parseBucketAndObjectName_join {bucketName objectName : Text}
    (hb : checkValidBucketName bucketName = .ok ())
    (ho : checkValidObjectName objectName = .ok ()) :
    parseBucketAndObjectName (bucketName ++ '/' :: objectName) = .ok (bucketName, objectName) := by
  have hslash : '/' ∉ bucketName := notMem_of_checkValidBucketName hb (by simp)
  have hdrop : (bucketName ++ '/' :: objectName).dropPrefix? (bucketName ++ ['/']) =
      some objectName := List.dropPrefix?_eq_some_iff.2 ⟨bucketName ++ ['/'], by simp, by simp⟩
  unfold parseBucketAndObjectName
  rw [List.splitOn_append_cons_self_of_not_mem hslash]
  cases hsplit : objectName.splitOn '/' with
  | nil => exact absurd hsplit (List.splitOn_ne_nil _ _)
  | cons first rest => simp only [hdrop, hb, ho, inName]; rfl

theorem GRN.resource_eq_ok {r : GRN} {x : NamedResource} (h : r.resource = .ok x) :
    x.ownName <:+ r.name := by
  unfold GRN.resource at h
  split at h
  · cases h
    exact List.suffix_rfl
  · obtain ⟨names, hnames, h⟩ := bind_eq_ok.1 h
    cases h
    rw [parseBucketAndObjectName_eq_ok hnames]
    exact ⟨names.1 ++ ['/'], by simp [NamedResource.ownName]⟩
  · cases h
    exact List.suffix_rfl
  · cases h

/-- The text of a resource splits into the parts it was joined from. -/
theorem NamedResource.splitOn_string (h : r.Valid) (hcolon : ':' ∉ r.ownName) :
    (r.grn.string codec).splitOn ':' = r.grn.parts codec := by
  rw [string_eq h, trimColon_of_notMem hcolon, ← intercalate_parts]
  refine List.splitOn_intercalate ':' ?_ (by cases r <;> simp [grn, GRN.parts, newBucketGRN,
    newObjectGRN, newGroupGRN])
  cases r with
  | bucket bucketName => simpa [grn, GRN.parts, newBucketGRN, ownName] using hcolon
  | object bucketName objectName =>
    have hbucket : ':' ∉ bucketName := notMem_of_checkValidBucketName h.1 (by simp)
    simpa [grn, GRN.parts, newObjectGRN, List.intercalate, hbucket, ownName] using hcolon
  | group owner groupName =>
    simpa [grn, GRN.parts, newGroupGRN, codec.colon_notMem owner, ownName] using hcolon

theorem parseFromString_string (h : r.Valid) (hcolon : ':' ∉ r.ownName) (hstar : '*' ∉ r.ownName) :
    parseFromString codec (r.grn.string codec) false = .ok r.grn := by
  unfold parseFromString
  rw [r.splitOn_string h hcolon]
  cases r with
  | bucket bucketName =>
    have hslash : '/' ∉ bucketName := notMem_of_checkValidBucketName h (by simp)
    have hcheck : checkValidBucketName bucketName = .ok () := h
    have hstar : '*' ∉ bucketName := hstar
    simp [NamedResource.grn, GRN.parts, newBucketGRN, parseParts, hstar, hslash, hcheck, checkUnless,
      inName]
  | object bucketName objectName =>
    have hbucket : '*' ∉ bucketName := notMem_of_checkValidBucketName h.1 (by simp)
    have hstar : '*' ∉ objectName := hstar
    simp [NamedResource.grn, GRN.parts, newObjectGRN, List.intercalate, parseParts, hbucket, hstar,
      parseBucketAndObjectName_join h.1 h.2]
  | group owner groupName =>
    have hcheck : checkValidGroupName groupName = .ok () := h
    have hstar : '*' ∉ groupName := hstar
    simp [NamedResource.grn, GRN.parts, newGroupGRN, parseParts, hstar, codec.ofText_toText, hcheck,
      checkUnless, inName]

theorem NamedResource.resource_grn (h : r.Valid) : r.grn.resource = .ok r := by
  cases r with
  | bucket bucketName => rfl
  | object bucketName objectName =>
    simp [grn, newObjectGRN, GRN.resource, List.intercalate, parseBucketAndObjectName_join h.1 h.2]
  | group owner groupName => rfl

theorem readResource_eq_ok (h : readResource codec res = .ok r) :
    ':' ∉ r.ownName ∧ '*' ∉ r.ownName := by
  obtain ⟨g, hparse, hresource⟩ := bind_eq_ok.1 h
  obtain ⟨hcolon, hstar⟩ := parseFromString_eq_ok hparse
  have hsuffix := GRN.resource_eq_ok hresource
  exact ⟨fun hmem => hcolon (hsuffix.mem hmem), fun hmem => hstar (hsuffix.mem hmem)⟩

end ReadBack

/-- **The names of resources**: the text of a resource is read back exactly if the resource's own name
holds neither a colon nor a star, and two resources have different texts exactly if neither
is the other with a colon at the end. -/
theorem grn_names (codec : AddressCodec) :
    (∀ r : NamedResource, r.Valid → (readResource codec (r.grn.string codec) = .ok r ↔
      ':' ∉ r.ownName ∧ '*' ∉ r.ownName)) ∧
    ∀ r₁ r₂ : NamedResource, r₁.Valid → r₂.Valid → r₁ ≠ r₂ →
      (r₁.grn.string codec ≠ r₂.grn.string codec ↔ ¬r₁.Shadows r₂ ∧ ¬r₂.Shadows r₁) := by
  constructor
  · intro r h
    refine ⟨readResource_eq_ok, fun ⟨hcolon, hstar⟩ => ?_⟩
    unfold readResource
    rw [parseFromString_string h hcolon hstar]
    exact r.resource_grn h
  · intro r₁ r₂ h₁ h₂ hne
    rw [Ne, NamedResource.string_eq_iff h₁ h₂]
    simp [hne]

/-! ### Names in hexadecimal -/

def hexDigits : List Char :=
  ['0', '1', '2', '3', '4', '5', '6', '7', '8', '9', 'a', 'b', 'c', 'd', 'e', 'f']

def byteText (b : Fin 256) : Text := [hexDigits.getD (b / 16) '0', hexDigits.getD (b % 16) '0']

def textBytes : Text → List (Fin 256)
  | hi :: lo :: t => Fin.ofNat 256 (16 * hexDigits.idxOf hi + hexDigits.idxOf lo) :: textBytes t
  | _ => []

theorem textBytes_byteText (b : Fin 256) :
    Fin.ofNat 256 (16 * hexDigits.idxOf (hexDigits.getD (b / 16) '0') +
      hexDigits.idxOf (hexDigits.getD (b % 16) '0')) = b ∧ ':' ∉ byteText b := by
  revert b
  decide +kernel

theorem textBytes_flatMap (l : List (Fin 256)) : textBytes (l.flatMap byteText) = l := by
  induction l with
  | nil => rfl
  | cons b l ih =>
    rw [List.flatMap_cons]
    exact congrArg₂ List.cons (textBytes_byteText b).1 ih

/-- An address as its bytes in hexadecimal. -/
def hexCodec : AddressCodec where
  toText a := '0' :: 'x' :: a.toList.flatMap byteText
  ofText t := if h : (textBytes (t.drop 2)).length = 20 then some ⟨_, h⟩ else none
  ofText_toText a := by
    have hbytes := textBytes_flatMap a.toList
    simp only [List.drop_succ_cons, List.drop_zero, hbytes]
    exact (dif_pos a.2)
  colon_notMem a := by
    simp only [List.mem_cons, List.mem_flatMap, not_or, not_exists, not_and]
    exact ⟨by decide, by decide, fun b _ => (textBytes_byteText b).2⟩

/-- A colon and a star are allowed in the name of an object and of a group, but the text of
neither is read back, and a group shares its text with the one that has a colon more. -/
theorem grn_colon :
    (NamedResource.object "bucket".toList "a:b".toList).Valid ∧
      readResource hexCodec ((NamedResource.object "bucket".toList "a:b".toList).grn.string hexCodec) =
        .error .regexMatch ∧
      (NamedResource.object "bucket".toList "a*b".toList).Valid ∧
      readResource hexCodec ((NamedResource.object "bucket".toList "a*b".toList).grn.string hexCodec) =
        .error .regexMatch ∧
      (NamedResource.group zeroAddress "abc".toList).Valid ∧
      (NamedResource.group zeroAddress "abc:".toList).Valid ∧
      (NamedResource.group zeroAddress "abc".toList).grn.string hexCodec =
        (NamedResource.group zeroAddress "abc:".toList).grn.string hexCodec := by
  decide +kernel

/-- The names without them are read back, with all that the object's name otherwise holds. -/
theorem grn_names_sample :
    (NamedResource.object "bucket".toList "a/b [1].txt".toList).Valid ∧
      readResource hexCodec
        ((NamedResource.object "bucket".toList "a/b [1].txt".toList).grn.string hexCodec) =
        .ok (.object "bucket".toList "a/b [1].txt".toList) :=
  ⟨by decide +kernel, ((grn_names hexCodec).1 (.object "bucket".toList "a/b [1].txt".toList)
    (by decide +kernel)).2 (by decide +kernel)⟩

end Moca.Permission
