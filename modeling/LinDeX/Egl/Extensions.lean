import Mathlib

/-!
# Extension strings of EGL devices

`filtered_extensions` of `firefox_egl_drm_identity.c` rewrites a string token by token, but looks for
the two names it adds with `strstr`: a longer token that contains a name hides that it is missing.
-/
namespace LinDeX.EglIdentity
open List
def software : List Char := "EGL_MESA_device_software".toList

def drmExt : List Char := "EGL_EXT_device_drm".toList

def renderExt : List Char := "EGL_EXT_device_drm_render_node".toList

/-- `sizeof(extension_buffer)`, with room for the terminator. -/
def bufferSize : Nat := 4096

def appendToken (output token : List Char) : Option (List Char) :=
  if bufferSize < output.length + (token.length + if output = [] then 0 else 1) + 1 then none
  else some (if output = [] then token else output ++ ' ' :: token)

/-- The loop over the native string; every round consumes a character. -/
def copyTokens : Nat → List Char → List Char → Option (List Char)
  | 0, output, _ => some output
  | fuel + 1, output, cursor =>
    if cursor = [] then some output
    else
      let start := cursor.dropWhile (· == ' ')
      let token := start.takeWhile (· != ' ')
      let rest := start.dropWhile (· != ' ')
      if token = [] ∨ token = software then copyTokens fuel output rest
      else (appendToken output token).bind fun output => copyTokens fuel output rest

def ensureToken (name output : List Char) : Option (List Char) :=
  if name <:+: output then some output else appendToken output name

/-- The new string, or nothing where the native one is returned. -/
def filteredExtensions (native : List Char) : Option (List Char) := do
  let output ← copyTokens native.length [] native
  let output ← ensureToken drmExt output
  ensureToken renderExt output

def tokens (s : List Char) : List (List Char) := (s.splitOnP (· == ' ')).filter (· ≠ [])

def addToken (name : List Char) (l : List (List Char)) : List (List Char) :=
  if name ∈ l then l else l ++ [name]

/-- The tokens that the rewritten string is for. -/
def rewritten (native : List Char) : List (List Char) :=
  addToken renderExt (addToken drmExt ((tokens native).filter (· ≠ software)))

/-- The bytes of the tokens, each with the blank or the terminator after it. -/
def width (l : List (List Char)) : Nat := (l.map (·.length + 1)).sum

/-- The buffer has its tokens and one blank between two of them. -/
def Packed (output : List Char) : Prop :=
  (if output = [] then 0 else output.length + 1) = width (tokens output)

/-- No other token contains the name where it is missing. -/
def Exposed (name : List Char) (l : List (List Char)) : Prop := (∃ t ∈ l, name <:+: t) → name ∈ l

variable {output token out cursor native name : List Char} {l : List (List Char)}
private theorem width_append (l l' : List (List Char)) : width (l ++ l') = width l + width l' := by
  rw [width,map_append,sum_append]
  rfl

private theorem width_le_addToken : width l ≤ width (addToken name l) := by
  unfold addToken
  split
  · exact Nat.le_refl _
  · rw [width_append]
    exact Nat.le_add_right ..

private theorem tokens_append (a b : List Char) : tokens
    (a ++ ' ' :: b) = tokens a ++ tokens b := by
  rw [tokens,splitOnP_append_cons _ _ rfl,filter_append]
  rfl

private theorem tokens_word (h : ∀ c ∈ token, (c == ' ') = false) :
    tokens token = if token = [] then [] else [token] := by
  rw [tokens,splitOnP_eq_singleton h]
  by_cases hnil : token = [] <;> simp [hnil]

private theorem tokens_dropSpaces (s : List Char) : tokens (s.dropWhile (· == ' ')) = tokens s := by
  induction s with
  | nil => rfl
  | cons c s ih =>
    by_cases hc : c = ' '
    · subst hc
      exact ih.trans (tokens_append [] s).symm
    · rw [dropWhile_cons_of_neg (by simpa using hc)]

private theorem tokens_scan (s : List Char) :
    tokens s = tokens (s.takeWhile (· != ' ')) ++ tokens (s.dropWhile (· != ' ')) := by
  have hsplit : s.takeWhile (· != ' ') ++ s.dropWhile (· != ' ') = s := takeWhile_append_dropWhile
  have hhead := head?_dropWhile_not (· != ' ') s
  cases hrest : s.dropWhile (· != ' ') with
  | nil =>
    rw [hrest,append_nil] at hsplit
    rw [hsplit]
    exact (append_nil _).symm
  | cons c rest =>
    rw [hrest] at hsplit hhead
    obtain rfl : c = ' ' := by simpa using hhead
    rw [← hsplit,tokens_append,hsplit]
    exact congrArg _ (tokens_append [] rest).symm

private theorem appendToken_spec (h : appendToken output token = some out) :
    tokens out = tokens output ++ tokens token ∧ out.length < bufferSize := by
  obtain ⟨hroom,hout⟩ := Option.ite_none_left_eq_some.mp h
  cases hout
  by_cases hnil : output = []
  · subst hnil
    exact ⟨rfl,Nat.lt_of_succ_le (by simpa using hroom)⟩
  · rw [if_neg hnil] at hroom ⊢
    refine ⟨tokens_append output token,?_⟩
    rw [length_append,length_cons]
    omega

private theorem appendToken_packed (hpacked : Packed output) (hword : tokens token = [token]) :
    (∀ out, appendToken output token = some out → Packed out) ∧
    (appendToken output token = none → bufferSize < width (tokens output ++ [token])) := by
  have hne : token ≠ [] := by
    rintro rfl
    cases hword
  rw [width_append,← hpacked]
  constructor
  · intro out h
    rw [Packed,(appendToken_spec h).1,width_append,← hpacked,hword]
    obtain ⟨-,hout⟩ := Option.ite_none_left_eq_some.mp h
    cases hout
    by_cases hnil : output = []
    · simp [hnil,hne,width]
    · simp [hnil,width]
      omega
  · intro h
    have hroom :
        bufferSize < output.length + (token.length + if output = [] then 0 else 1) + 1 := by
      by_contra hle
      rw [appendToken,if_neg hle] at h
      cases h
    by_cases hnil : output = [] <;> simp [hnil,width] at hroom ⊢ <;> omega

private theorem infix_append_cons {c : Char} {a b : List Char} (hc : c ∉ name) :
    name <:+: a ++ c :: b ↔ name <:+: a ∨ name <:+: b := by
  constructor
  · rintro ⟨p,q,h⟩
    rcases append_eq_append_iff.mp h with ⟨_,rfl, -⟩ | ⟨l,hl,hq⟩
    · exact .inl ⟨p,_,rfl⟩
    cases l with
    | nil => exact .inl ⟨p,[],by simpa using hl⟩
    | cons d l =>
      obtain ⟨rfl,rfl⟩ := List.cons.inj hq
      -- the separator lies in front of the name
      rcases append_eq_append_iff.mp hl with ⟨_,rfl,rfl⟩ | ⟨m,rfl,hm⟩
      · simp at hc
      cases m with
      | nil => exact absurd ((show _ = name from hm) ▸ mem_cons_self) hc
      | cons _ m => exact .inr ⟨m,q,by simp [(List.cons.inj hm).2]⟩
  · exact fun h => h.elim (·.trans (infix_append [] a _))
      (·.trans ((suffix_cons c b).isInfix.trans (suffix_append a _).isInfix))

private theorem infix_iff_tokens (hname : ' ' ∉ name) (hne : name ≠ []) {s : List Char} :
    name <:+: s ↔ ∃ t ∈ tokens s, name <:+: t := by
  have hword {w : List Char} (hw : ∀ c ∈ w, (c == ' ') = false) :
      name <:+: w ↔ ∃ t ∈ tokens w, name <:+: t := by
    rw [tokens_word hw]
    by_cases hnil : w = [] <;> simp [hnil,hne]
  -- the characters since the last blank are held back
  suffices h : ∀ w : List Char, (∀ c ∈ w, (c == ' ') = false) →
      (name <:+: w ++ s ↔ ∃ t ∈ tokens (w ++ s), name <:+: t) from h [] nofun
  induction s with
  | nil =>
    intro w hw
    rw [append_nil]
    exact hword hw
  | cons c s ih =>
    intro w hw
    by_cases hc : c = ' '
    · subst hc
      rw [infix_append_cons hname,tokens_append,hword hw]
      simpa [or_and_right,exists_or] using or_congr_right (ih [] nofun)
    · have hnext := ih (w ++ [c]) (by simpa [or_imp,forall_and,hc] using hw)
      rwa [append_assoc] at hnext

private theorem infix_of_mem_tokens (hname : ' ' ∉ name) (hne : name ≠ [])
    (h : name ∈ tokens output) :
    name <:+: output :=
  (infix_iff_tokens hname hne).mpr ⟨name,h,infix_rfl⟩

private theorem tokens_copyTokens {fuel : Nat} (hfuel : cursor.length ≤ fuel)
    (hpacked : Packed output) :
    let kept := tokens output ++ (tokens cursor).filter (· ≠ software)
    (∀ out, copyTokens fuel output cursor = some out → Packed out ∧ tokens out = kept) ∧
    (copyTokens fuel output cursor = none → bufferSize < width kept) := by
  induction fuel generalizing output cursor with
  | zero =>
    rw [length_eq_zero_iff.mp (Nat.le_zero.mp hfuel)]
    refine ⟨fun out h => ?_,nofun⟩
    cases h
    exact ⟨hpacked,(append_nil _).symm⟩
  | succ fuel ih =>
    unfold copyTokens
    cases cursor with
    | nil =>
      refine ⟨fun out h => ?_,nofun⟩
      cases h
      exact ⟨hpacked,(append_nil _).symm⟩
    | cons c cursor =>
      have hrest : (((c :: cursor).dropWhile (· == ' ')).dropWhile (· != ' ')).length ≤ fuel := by
        refine Nat.le_trans ?_ (Nat.le_of_succ_le_succ hfuel)
        by_cases hc : c = ' '
        · rw [dropWhile_cons_of_pos (by simpa using hc)]
          exact Nat.le_trans (dropWhile_suffix _).length_le (dropWhile_suffix _).length_le
        · rw [dropWhile_cons_of_neg (by simpa using hc),dropWhile_cons_of_pos (by simpa using hc)]
          exact (dropWhile_suffix _).length_le
      rw [← tokens_dropSpaces (c :: cursor),tokens_scan ((c :: cursor).dropWhile _)]
      rw [if_neg (cons_ne_nil _ _)]
      have hword := @tokens_word (((c :: cursor).dropWhile (· == ' ')).takeWhile (· != ' '))
        fun c hc => by simpa using mem_takeWhile_imp hc
      dsimp only
      generalize ((c :: cursor).dropWhile (· == ' ')).takeWhile (· != ' ') = token at *
      rw [filter_append,hword]
      split
      · rename_i hskip
        have hnone : (if token = [] then [] else [token]).filter (· ≠ software) = [] := by
          rcases hskip with rfl | rfl <;> rfl
        rw [hnone]
        exact ih hrest hpacked
      · rename_i hcopy
        obtain ⟨hne,hother⟩ := not_or.mp hcopy
        rw [if_neg hne] at hword ⊢
        have happend := appendToken_packed hpacked hword
        rw [filter_cons_of_pos (by simpa using hother),filter_nil,← append_assoc]
        cases hnext : appendToken output token with
        | none =>
          refine ⟨nofun,fun _ => Nat.lt_of_lt_of_le (happend.2 hnext) ?_⟩
          rw [width_append _ (filter ..)]
          exact Nat.le_add_right ..
        | some next =>
          have hnow := ih hrest (happend.1 next hnext)
          rwa [(appendToken_spec hnext).1,hword] at hnow

private theorem tokens_ensureToken (hname : tokens name = [name])
    (h : ensureToken name output = some out) :
    tokens out = if name <:+: output then tokens output else tokens output ++ [name] := by
  unfold ensureToken at h
  split at h
  · cases h
    exact (if_pos ‹_›).symm
  · rw [if_neg ‹_›,(appendToken_spec h).1,hname]

private theorem ensureToken_fits (hname : tokens name = [name])
    (hinside : name ∈ l → name <:+: output)
    (hpacked : Packed output) (hle : width (tokens output) ≤ width l)
    (hroom : width (addToken name l) ≤ bufferSize) :
    ∃ out, ensureToken name output = some out ∧ Packed out ∧
      width (tokens out) ≤ width (addToken name l) := by
  unfold ensureToken
  split
  · exact ⟨output,rfl,hpacked,Nat.le_trans hle width_le_addToken⟩
  rename_i hmissing
  rw [addToken,if_neg fun h => hmissing (hinside h),width_append] at hroom ⊢
  cases hout : appendToken output name with
  | none =>
    have hover := (appendToken_packed hpacked hname).2 hout
    rw [width_append] at hover
    omega
  | some out =>
    refine ⟨out,rfl,(appendToken_packed hpacked hname).1 out hout,?_⟩
    rw [(appendToken_spec hout).1,hname,width_append]
    omega

private theorem filteredExtensions_isSome (h : width (rewritten native) ≤ bufferSize) :
    (filteredExtensions native).isSome := by
  have hcopy := @tokens_copyTokens [] native native.length (Nat.le_refl _) rfl
  have hroom := Nat.le_trans width_le_addToken h
  unfold filteredExtensions
  cases hjoined : copyTokens native.length [] native with
  | none =>
    have hover := hcopy.2 hjoined
    exact absurd (Nat.le_trans width_le_addToken hroom) (Nat.not_le.mpr hover)
  | some joined =>
    obtain ⟨hpacked,hkept⟩ := hcopy.1 joined hjoined
    obtain ⟨extended,hdrm,hpacked',hle⟩ := ensureToken_fits (show tokens drmExt = _ by decide)
      (fun h => infix_of_mem_tokens (by decide) (by decide) (by rw [hkept]; exact h)) hpacked
      (Nat.le_of_eq (congrArg width hkept)) hroom
    have hrenderIn (h : renderExt ∈ addToken drmExt ((tokens native).filter (· ≠ software))) :
        renderExt <:+: extended := by
      refine infix_of_mem_tokens (by decide) (by decide) ?_
      have hin : renderExt ∈ tokens joined := by
        rw [hkept]
        unfold addToken at h
        split at h
        · exact h
        · exact (mem_append.mp h).resolve_right (by decide)
      rw [tokens_ensureToken (by decide) hdrm]
      split
      · exact hin
      · exact mem_append_left _ hin
    obtain ⟨out,hrender, -⟩ := ensureToken_fits (by decide) hrenderIn hpacked' hle h
    simp [hdrm,hrender]

/-- A string whose rewritten form fits the buffer is rewritten, and then to the expected tokens in
their order if and only if none of the native tokens contains a name that is missing among them. -/
theorem filteredExtensions_tokens (native : List Char) :
    (∀ output token out, appendToken output token = some out → out.length < bufferSize) ∧
    (width (rewritten native) ≤ bufferSize → (filteredExtensions native).isSome) ∧
    ∀ out, filteredExtensions native = some out → (tokens out = rewritten native ↔
      ∀ name ∈ [drmExt,renderExt], Exposed name ((tokens native).filter (· ≠ software))) := by
  refine ⟨fun _ _ _ h => (appendToken_spec h).2,filteredExtensions_isSome,fun out h => ?_⟩
  obtain ⟨joined,hjoined,h⟩ := Option.bind_eq_some_iff.mp h
  obtain ⟨extended,hdrm,hrender⟩ := Option.bind_eq_some_iff.mp h
  have hkept := ((@tokens_copyTokens [] native native.length (Nat.le_refl _) rfl).1 _ hjoined).2
  have hextended := tokens_ensureToken (by decide) hdrm
  have hne : renderExt ≠ drmExt := by decide
  have hother : ¬renderExt <:+: drmExt := by decide
  rw [show tokens [] = [] from rfl,nil_append] at hkept
  have hdrmFound : drmExt <:+: joined ↔ ∃ t ∈ tokens joined, drmExt <:+: t :=
    infix_iff_tokens (by decide) (by decide)
  have hrenderFound : renderExt <:+: extended ↔ ∃ t ∈ tokens joined, renderExt <:+: t := by
    rw [infix_iff_tokens (by decide) (by decide),hextended]
    split
    · rfl
    · simp [or_and_right,exists_or,hother]
  have hdrmIn (h : drmExt ∈ tokens joined) := infix_of_mem_tokens (by decide) (by decide) h
  have hrenderIn (h : renderExt ∈ tokens joined) := hrenderFound.mpr ⟨_,h,infix_rfl⟩
  rw [rewritten,← hkept,tokens_ensureToken (by decide) hrender,hextended,forall_mem_cons,
    forall_mem_singleton]
  unfold Exposed addToken
  rw [← hdrmFound,← hrenderFound]
  by_cases hd : drmExt ∈ tokens joined <;> by_cases hr : renderExt ∈ tokens joined <;>
    by_cases hd' : drmExt <:+: joined <;> by_cases hr' : renderExt <:+: extended <;>
    simp [hd,hr,hd',hr',hne] at hdrmIn hrenderIn ⊢

theorem filteredExtensions_renderNode :
    filteredExtensions renderExt = some renderExt ∧ width (rewritten renderExt) ≤ bufferSize ∧
    drmExt ∉ tokens renderExt := by decide +kernel

end LinDeX.EglIdentity
