import FormatterModules.Fetcher
import FormatterModules.Proofs.FileTree.Writing
import FormatterModules.Proofs.Repository.Places

namespace FormatterModules

namespace Bytes

theorem ne_of_mem_toHex {bytes : List UInt8} {c : Char} (h : c ∈ (toHex bytes).toList) :
    c ≠ '/' ∧ c ≠ '-' := by
  have hdigit : ∀ n < 16, Text.hexDigit n ≠ '/' ∧ Text.hexDigit n ≠ '-' := by decide
  rw [toHex, String.toList_ofList, List.mem_flatMap] at h
  obtain ⟨b, -, hc⟩ := h
  have hb : b.toNat < 256 := b.toNat_lt
  simp only [hexPair, List.mem_cons, List.not_mem_nil, or_false] at hc
  obtain rfl | rfl := hc
  · exact hdigit _ (by omega)
  · exact hdigit _ (by omega)

end Bytes

namespace Fetcher

theorem ne_of_mem_digest {url : Url} {c : Char} (h : c ∈ (digest url).toList) :
    c ≠ '/' ∧ c ≠ '-' := by
  rw [digest, String.toList_ofList] at h
  exact Bytes.ne_of_mem_toHex (List.mem_of_mem_take h)

theorem toList_fileName (url : Url) :
    (fileName url).toList =
      (digest url).toList ++ '-' :: (url.lastSegment?.getD defaultFileName).toList := by
  rw [fileName, String.toList_append, String.toList_append, List.append_assoc]
  rfl

theorem slash_free_lastSegment (url : Url) :
    '/' ∉ (url.lastSegment?.getD defaultFileName).toList := by
  cases h : url.lastSegment? with
  | none => decide
  | some segment =>
    obtain ⟨piece, hpiece, rfl⟩ := Option.map_eq_some_iff.mp h
    have hmem := List.mem_of_getLast? (Option.eq_some_of_filter_eq_some hpiece)
    rw [Option.getD_some, String.toList_ofList]
    exact fun hslash => (Text.of_mem_splitOn hmem '/' hslash).2 rfl

theorem isEntryName_fileName (url : Url) : Path.IsEntryName (fileName url) := by
  have hname := toList_fileName url
  have hhyphen : '-' ∈ (fileName url).toList := by simp [hname]
  refine ⟨?_, ?_, ?_, ?_⟩
  · exact fun he => absurd (he ▸ hhyphen) (by decide)
  · exact fun he => absurd (he ▸ hhyphen) (by decide)
  · exact fun he => absurd (he ▸ hhyphen) (by decide)
  · rw [hname, List.mem_append, List.mem_cons]
    rintro (hslash | hslash | hslash)
    · exact (ne_of_mem_digest hslash).1 rfl
    · cases hslash
    · exact slash_free_lastSegment url hslash

theorem digest_eq_of_fileName_eq {url other : Url} (h : fileName url = fileName other) :
    digest url = digest other := by
  have htext := congrArg String.toList h
  rw [toList_fileName, toList_fileName] at htext
  have htake : ∀ u : Url, ∀ rest : List Char,
      ((digest u).toList ++ '-' :: rest).takeWhile (· != '-') = (digest u).toList := by
    intro u rest
    rw [List.takeWhile_append_of_pos fun c hc => by simpa using (ne_of_mem_digest hc).2,
      List.takeWhile_cons_of_neg (by simp), List.append_nil]
  have hdigits := congrArg (List.takeWhile (· != '-')) htext
  rw [htake, htake] at hdigits
  exact String.toList_injective hdigits

def home (f : Fetcher) (files : FileTree) : Place :=
  f.cacheDirectory.placeFrom files.workingDirectory

theorem placeFrom_target (f : Fetcher) (url : Url) (files : FileTree) :
    (f.target url).placeFrom files.workingDirectory = f.home files ++ [fileName url] :=
  Path.placeFrom_joinText f.cacheDirectory (isEntryName_fileName url) files.workingDirectory

theorem store_cases (f : Fetcher) (files : FileTree) (target : Path) (body : String) :
    (∃ e, (f.store files target body).1 = .error e ∧
      files.Grows (f.store files target body).2) ∨
    (f.store files target body).1 = .ok () ∧
      files.Replaces (f.store files target body).2 target
        (target.placeFrom files.workingDirectory) (Bytes.ofText body) := by
  have hgrows := files.grows_ensureDirectories f.cacheDirectory
  unfold store
  rcases hm : files.ensureDirectories f.cacheDirectory with ⟨result, made⟩
  rw [hm] at hgrows
  cases result with
  | error e => exact .inl ⟨e, rfl, hgrows⟩
  | ok u =>
    dsimp only
    cases hw : made.writeTemporary f.cacheDirectory (Bytes.ofText body) 0
        FileTree.temporaryLimit with
    | error e => exact .inl ⟨e, rfl, hgrows⟩
    | ok staged =>
      obtain ⟨place, written⟩ := staged
      obtain ⟨hfree, rfl⟩ := FileTree.writeTemporary_eq_ok hw
      dsimp only
      cases hmove : (made.put place (.file (Bytes.ofText body))).move place target with
      | error e => exact .inl ⟨e, rfl, hgrows.trans (FileTree.grows_erase_put hfree _)⟩
      | ok moved =>
        have hreplaces := hgrows.replaces (FileTree.replaces_of_move hfree hmove)
        rw [hgrows.workingDirectory] at hreplaces
        exact .inr ⟨rfl, hreplaces⟩

/-- The final answer to a request, if there is one. -/
def Answers (env : Environment) (url : Url) (response : Response) : Prop :=
  (env.network.get url).1 = .ok response

/-- The final answer to a request blames the client. -/
def Rejects (env : Environment) (url : Url) : Prop :=
  ∃ response, Answers env url response ∧ Network.isClientError response.status = true

theorem bodyOf_cases (url : Url) (answer : Except String Response) :
    (∃ response, answer = .ok response ∧ Network.isClientError response.status = true ∧
      ∃ text, bodyOf url answer = .error (.invalidArgument text)) ∨
    (∃ response bytes, answer = .ok response ∧ Network.isClientError response.status = false ∧
      Network.isSuccess response.status = true ∧ response.body = .ok bytes ∧
      bodyOf url answer = .ok (Bytes.decodeLossy bytes)) ∨
    (∀ response, answer = .ok response → Network.isClientError response.status = false) ∧
      ∃ details, bodyOf url answer = .error (.resolution url.href details) := by
  unfold bodyOf
  cases answer with
  | error details =>
    refine .inr (.inr ⟨?_, details, rfl⟩)
    intro response h
    cases h
  | ok response =>
    dsimp only
    by_cases hrejected : Network.isClientError response.status = true
    · rw [if_pos hrejected]
      exact .inl ⟨response, rfl, hrejected, _, rfl⟩
    · have haccepted : ∀ other, Except.ok (ε := String) response = .ok other →
          Network.isClientError other.status = false := by
        intro other h
        cases h
        simpa using hrejected
      rw [if_neg hrejected]
      by_cases hsuccess : Network.isSuccess response.status = true
      · rw [if_pos hsuccess]
        cases hbody : response.body with
        | ok bytes => exact .inr (.inl ⟨response, bytes, rfl, haccepted _ rfl, hsuccess, hbody, rfl⟩)
        | error details => exact .inr (.inr ⟨haccepted, details, rfl⟩)
      · rw [if_neg hsuccess]
        exact .inr (.inr ⟨haccepted, _, rfl⟩)

theorem response_of_bodyOf {url : Url} {env : Environment} {body : String}
    (h : bodyOf url (env.network.get url).1 = .ok body) :
    ∃ response bytes, Answers env url response ∧ Network.isSuccess response.status = true ∧
      response.body = .ok bytes ∧ body = Bytes.decodeLossy bytes := by
  rcases bodyOf_cases url (env.network.get url).1 with
    ⟨_, -, -, _, hbody⟩ | ⟨response, bytes, hanswer, -, hsuccess, harrived, hbody⟩ | ⟨-, _, hbody⟩
  · cases h.symm.trans hbody
  · exact ⟨response, bytes, hanswer, hsuccess, harrived, Except.ok.inj (h.symm.trans hbody)⟩
  · cases h.symm.trans hbody

theorem failure_of_bodyOf {url : Url} {env : Environment} {e : Failure}
    (h : bodyOf url (env.network.get url).1 = .error e) :
    Rejects env url ∧ (∃ text, e = .invalidArgument text) ∨
      ¬ Rejects env url ∧ ∃ details, e = .resolution url.href details := by
  rcases bodyOf_cases url (env.network.get url).1 with
    ⟨response, hanswer, hrejected, text, hbody⟩ | ⟨_, _, -, -, -, -, hbody⟩ | ⟨hnone, details, hbody⟩
  · exact .inl ⟨⟨response, hanswer, hrejected⟩, text, Except.error.inj (h.symm.trans hbody)⟩
  · cases h.symm.trans hbody
  · refine .inr ⟨?_, details, Except.error.inj (h.symm.trans hbody)⟩
    rintro ⟨response, hanswer, hrejected⟩
    rw [hnone response hanswer] at hrejected
    cases hrejected

theorem not_rejects_of_bodyOf {url : Url} {env : Environment} {body : String}
    (h : bodyOf url (env.network.get url).1 = .ok body) : ¬ Rejects env url := by
  rintro ⟨response, hanswer, hrejected⟩
  rcases bodyOf_cases url (env.network.get url).1 with
    ⟨_, -, -, _, hbody⟩ | ⟨response', _, hanswer', haccepted, -, -, -⟩ | ⟨-, _, hbody⟩
  · cases h.symm.trans hbody
  · cases hanswer.symm.trans hanswer'
    cases hrejected.symm.trans haccepted
  · cases h.symm.trans hbody

/-- How a download ends: it is stopped, or there is no body, or the body cannot be stored, or it is
stored. -/
inductive Ends (f : Fetcher) (url : Url) (env : Environment) :
    Except Failure Path × Environment → Prop
  | stopped (stopped : env.isStopped f.flag? = true) : Ends f url env (.error .interrupted, env)
  | refused {e : Failure} {network : Network} (runs : env.isStopped f.flag? = false)
      (refused : bodyOf url (env.network.get url).1 = .error e) :
      Ends f url env (.error e, { env with network })
  | lost {body : String} {e : SystemError} {network : Network} {files : FileTree}
      (runs : env.isStopped f.flag? = false)
      (received : bodyOf url (env.network.get url).1 = .ok body)
      (failed : (f.store env.files (f.target url) body).1 = .error e)
      (grows : env.files.Grows files) :
      Ends f url env (.error (notStored url e), { env with network, files })
  | stored {body : String} {network : Network} {files : FileTree}
      (runs : env.isStopped f.flag? = false)
      (received : bodyOf url (env.network.get url).1 = .ok body)
      (replaces : env.files.Replaces files (f.target url)
        (f.home env.files ++ [fileName url]) (Bytes.ofText body)) :
      Ends f url env (.ok (f.target url), { env with network, files })

theorem download_ends (f : Fetcher) (url : Url) (env : Environment) :
    Ends f url env (f.download url env) := by
  unfold download
  cases hstopped : env.isStopped f.flag? with
  | true => exact .stopped hstopped
  | false =>
    rw [if_neg Bool.false_ne_true]
    rcases hget : env.network.get url with ⟨answer, network⟩
    dsimp only
    cases hbody : bodyOf url answer with
    | error e => exact .refused hstopped (by rw [hget, hbody])
    | ok body =>
      have hreceived : bodyOf url (env.network.get url).1 = .ok body := by rw [hget, hbody]
      dsimp only
      rcases f.store_cases env.files (f.target url) body with
        ⟨e, hresult, hgrows⟩ | ⟨hresult, hreplaces⟩
      · rcases hs : f.store env.files (f.target url) body with ⟨result, files⟩
        rw [hs] at hresult hgrows
        obtain rfl : result = .error e := hresult
        exact .lost hstopped hreceived (by rw [hs]) hgrows
      · rcases hs : f.store env.files (f.target url) body with ⟨result, files⟩
        rw [hs] at hresult hreplaces
        obtain rfl : result = .ok () := hresult
        rw [placeFrom_target] at hreplaces
        exact .stored hstopped hreceived hreplaces

end Fetcher

end FormatterModules
