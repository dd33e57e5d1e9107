import FormatterModules.Proofs.Fetcher.Downloads

namespace FormatterModules

namespace Fetcher

def IsRemote (url : Url) : Prop := url.scheme = "http" ∨ url.scheme = "https"

theorem fetch_remote {url : Url} (h : IsRemote url) (f : Fetcher) (env : Environment) :
    f.fetch url env = f.download url env := by
  unfold fetch Network.isWeb
  obtain h | h := h <;> simp [h]

theorem fetch_local {url : Url} (h : url.scheme = "file") (f : Fetcher) (env : Environment) :
    f.fetch url env = (locateFile env.files url, env) := by
  simp [fetch, h]

theorem environment_of_not_remote {url : Url} (h : ¬ IsRemote url) (f : Fetcher)
    (env : Environment) : (f.fetch url env).2 = env := by
  unfold fetch
  split
  · rfl
  · rw [if_neg (by simpa [IsRemote, Network.isWeb] using h)]

/-- A call of a fetcher, and what it meets. -/
structure Call where
  url : Url
  environment : Environment

def Call.Received (c : Call) (f : Fetcher) (body : String) : Prop :=
  IsRemote c.url ∧ (∃ p, (f.fetch c.url c.environment).1 = .ok p) ∧
    ∃ response bytes, Answers c.environment c.url response ∧ response.body = .ok bytes ∧
      body = Bytes.decodeLossy bytes

/-- Nobody wrote to the cache directory. -/
structure Undisturbed (f : Fetcher) (files later : FileTree) : Prop where
  workingDirectory : later.workingDirectory = files.workingDirectory
  below : ∀ rest, later.file? (f.home files ++ rest) = files.file? (f.home files ++ rest)

/-- The files after calls, each of which finds the cache directory as the last one left it. -/
inductive Run (f : Fetcher) (start : FileTree) : List Call → FileTree → Prop
  | nil : Run f start [] start
  | call {calls : List Call} {files : FileTree} {c : Call} (run : Run f start calls files)
      (undisturbed : f.Undisturbed files c.environment.files) :
      Run f start (calls ++ [c]) (f.fetch c.url c.environment).2.files

def LastReceived (f : Fetcher) (calls : List Call) (url : Url) (body : String) : Prop :=
  ∃ before c after, calls = before ++ c :: after ∧ c.url = url ∧ c.Received f body ∧
    ∀ d ∈ after, d.url = url → ∀ other, ¬ d.Received f other

/-- Different URLs that are downloaded have different digests. -/
def DigestsDiffer (calls : List Call) : Prop :=
  ∀ c ∈ calls, ∀ d ∈ calls, IsRemote c.url → IsRemote d.url →
    digest c.url = digest d.url → c.url = d.url

variable {f : Fetcher} {start files : FileTree} {calls : List Call} {c : Call}

theorem lastReceived_concat {url : Url} {body : String} :
    f.LastReceived (calls ++ [c]) url body ↔
      c.url = url ∧ c.Received f body ∨
        (c.url = url → ∀ other, ¬ c.Received f other) ∧ f.LastReceived calls url body := by
  constructor
  · rintro ⟨before, d, after, hcalls, hurl, hreceived, hlast⟩
    rcases List.eq_nil_or_concat after with rfl | ⟨others, e, rfl⟩
    · obtain ⟨-, hd⟩ := List.append_inj' hcalls rfl
      obtain rfl := List.singleton_inj.mp hd
      exact .inl ⟨hurl, hreceived⟩
    · rw [List.concat_eq_append] at hcalls hlast
      have hsplit : calls ++ [c] = (before ++ d :: others) ++ [e] := by
        rw [hcalls, List.append_assoc]
        rfl
      obtain ⟨rfl, he⟩ := List.append_inj' hsplit rfl
      obtain rfl := List.singleton_inj.mp he
      exact .inr ⟨hlast c (by simp), before, d, others, rfl, hurl, hreceived,
        fun x hx => hlast x (by simp [hx])⟩
  · rintro (⟨hurl, hreceived⟩ | ⟨hnow, before, d, after, rfl, hurl, hreceived, hlast⟩)
    · exact ⟨calls, c, [], rfl, hurl, hreceived, fun d hd => nomatch hd⟩
    · refine ⟨before, d, after ++ [c], by simp, hurl, hreceived, fun x hx => ?_⟩
      rcases List.mem_append.mp hx with hx | hx
      · exact hlast x hx
      · obtain rfl := List.mem_singleton.mp hx
        exact hnow

theorem LastReceived.exists_call {url : Url} {body : String} (h : f.LastReceived calls url body) :
    ∃ d ∈ calls, d.url = url ∧ IsRemote url := by
  obtain ⟨before, d, after, rfl, rfl, hreceived, -⟩ := h
  exact ⟨d, by simp, rfl, hreceived.1⟩

theorem fetch_cases (f : Fetcher) (c : Call) :
    (∀ body, ¬ c.Received f body) ∧
        c.environment.files.Grows (f.fetch c.url c.environment).2.files ∨
      ∃ body, c.Received f body ∧ (∀ other, c.Received f other → other = body) ∧
        c.environment.files.Replaces (f.fetch c.url c.environment).2.files (f.target c.url)
          (f.home c.environment.files ++ [fileName c.url]) (Bytes.ofText body) := by
  by_cases hremote : IsRemote c.url
  · have hends := f.download_ends c.url c.environment
    rw [← fetch_remote hremote] at hends
    have hunreceived : ∀ e, (f.fetch c.url c.environment).1 = .error e →
        ∀ body, ¬ c.Received f body := by
      rintro e he body ⟨-, ⟨p, hp⟩, -⟩
      cases he.symm.trans hp
    generalize hfetch : f.fetch c.url c.environment = result at hends hunreceived ⊢
    cases hends with
    | stopped _ => exact .inl ⟨hunreceived _ rfl, .refl _⟩
    | refused _ _ => exact .inl ⟨hunreceived _ rfl, .refl _⟩
    | lost _ _ _ hgrows => exact .inl ⟨hunreceived _ rfl, hgrows⟩
    | @stored body _ _ _ hreceived hreplaces =>
      obtain ⟨response, bytes, hanswer, -, harrived, rfl⟩ := response_of_bodyOf hreceived
      refine .inr ⟨_, ⟨hremote, ⟨_, by rw [hfetch]⟩, response, bytes, hanswer, harrived, rfl⟩, ?_,
        hreplaces⟩
      rintro other ⟨-, -, response', bytes', hanswer', harrived', rfl⟩
      obtain rfl := Except.ok.inj (hanswer.symm.trans hanswer')
      rw [Except.ok.inj (harrived.symm.trans harrived')]
  · rw [environment_of_not_remote hremote]
    exact .inl ⟨fun body h => hremote h.1, .refl _⟩

theorem Run.workingDirectory (h : Run f start calls files) :
    files.workingDirectory = start.workingDirectory := by
  induction h with
  | nil => rfl
  | @call calls files c run undisturbed ih =>
    have hbetween := undisturbed.workingDirectory.trans ih
    rcases f.fetch_cases c with ⟨-, hgrows⟩ | ⟨body, -, -, hreplaces⟩
    · exact hgrows.workingDirectory.trans hbetween
    · exact hreplaces.workingDirectory.trans hbetween

theorem Run.home_eq (h : Run f start calls files) : f.home files = f.home start := by
  rw [home, home, h.workingDirectory]

theorem Run.contents (h : Run f start calls files) (hd : DigestsDiffer calls) :
    (∀ rest, (∀ url body, f.LastReceived calls url body → rest ≠ [fileName url]) →
      files.file? (f.home start ++ rest) = start.file? (f.home start ++ rest)) ∧
    ∀ url body, f.LastReceived calls url body →
      files.file? (f.home start ++ [fileName url]) = some (.file (Bytes.ofText body)) := by
  induction h with
  | nil =>
    refine ⟨fun _ _ => rfl, ?_⟩
    rintro url body ⟨before, d, after, hcalls, -⟩
    simp at hcalls
  | @call calls files c run undisturbed ih =>
    have hbefore : DigestsDiffer calls := fun a ha b hb =>
      hd a (List.mem_append_left _ ha) b (List.mem_append_left _ hb)
    obtain ⟨hothers, hlast⟩ := ih hbefore
    have hhome : f.home c.environment.files = f.home start := by
      rw [home, undisturbed.workingDirectory]
      exact run.home_eq
    have hbetween : ∀ rest, c.environment.files.file? (f.home start ++ rest) =
        files.file? (f.home start ++ rest) := by
      intro rest
      rw [← run.home_eq]
      exact undisturbed.below rest
    rcases f.fetch_cases c with ⟨hnone, hgrows⟩ | ⟨body, hreceived, hunique, hreplaces⟩
    · have hsame : ∀ url body, f.LastReceived (calls ++ [c]) url body ↔
          f.LastReceived calls url body := by
        intro url body
        rw [lastReceived_concat]
        exact ⟨fun h => (h.resolve_left fun h => hnone body h.2).2,
          fun h => .inr ⟨fun _ => hnone, h⟩⟩
      refine ⟨fun rest hrest => ?_, fun url body hbody => ?_⟩
      · rw [hgrows.files, hbetween]
        exact hothers rest fun url body hbody => hrest url body ((hsame url body).mpr hbody)
      · rw [hgrows.files, hbetween]
        exact hlast url body ((hsame url body).mp hbody)
    · rw [hhome] at hreplaces
      refine ⟨fun rest hrest => ?_, fun url other hother => ?_⟩
      · have hne : rest ≠ [fileName c.url] :=
          hrest c.url body (lastReceived_concat.mpr (.inl ⟨rfl, hreceived⟩))
        rw [hreplaces.others _ (by simpa using hne), hbetween]
        refine hothers rest fun url other hother => ?_
        by_cases hurl : c.url = url
        · rwa [← hurl]
        · exact hrest url other (lastReceived_concat.mpr (.inr ⟨fun h => absurd h hurl, hother⟩))
      · rcases lastReceived_concat.mp hother with ⟨rfl, hnow⟩ | ⟨hnow, hearlier⟩
        · rw [hunique other hnow]
          exact FileTree.file?_eq_some_iff.mpr hreplaces.holds
        · -- An earlier download of another URL lies in another file.
          obtain ⟨d, hdmem, rfl, hremote⟩ := hearlier.exists_call
          have hne : fileName d.url ≠ fileName c.url := by
            intro heq
            have hurl := hd d (List.mem_append_left _ hdmem) c (by simp) hremote hreceived.1
              (digest_eq_of_fileName_eq heq)
            exact hnow hurl.symm body hreceived
          rw [hreplaces.others _ (by simpa using hne), hbetween]
          exact hlast d.url other hearlier

theorem target_of_fetch {url : Url} (hurl : IsRemote url) {env : Environment} {p : Path}
    (h : (f.fetch url env).1 = .ok p) :
    env.isStopped f.flag? = false ∧ p = f.target url ∧
      (f.fetch url env).2.files.place p = .ok (f.home env.files ++ [fileName url]) ∧
      (f.fetch url env).2.files.hasDirectory (f.home env.files) = true ∧
      ∃ response bytes, Answers env url response ∧ Network.isSuccess response.status = true ∧
        response.body = .ok bytes ∧
        (f.fetch url env).2.files.read p = .ok (Bytes.ofText (Bytes.decodeLossy bytes)) := by
  have hends := f.download_ends url env
  rw [← fetch_remote hurl] at hends
  generalize f.fetch url env = result at hends h
  cases hends with
  | stopped _ => cases h
  | refused _ _ => cases h
  | lost _ _ _ _ => cases h
  | @stored body _ after hruns hreceived hreplaces =>
    have hp : f.target url = p := Except.ok.inj h
    subst p
    obtain ⟨response, bytes, hanswer, hsuccess, harrived, rfl⟩ := response_of_bodyOf hreceived
    have hdirectory := FileTree.hasDirectory_of_place (isEntryName_fileName url) hreplaces.leads
    rw [hreplaces.workingDirectory] at hdirectory
    exact ⟨hruns, rfl, hreplaces.leads, hdirectory, response, bytes, hanswer, hsuccess, harrived,
      hreplaces.read⟩

theorem failure_of_fetch {url : Url} (hurl : IsRemote url) {env : Environment} {e : Failure}
    (h : (f.fetch url env).1 = .error e) :
    ((∃ text, e = .invalidArgument text) ↔ env.isStopped f.flag? = false ∧ Rejects env url) ∧
      (e = .interrupted ↔ env.isStopped f.flag? = true) ∧
      ((∃ details, e = .resolution url.href details) ↔
        env.isStopped f.flag? = false ∧ ¬ Rejects env url) := by
  have hends := f.download_ends url env
  rw [← fetch_remote hurl] at hends
  generalize f.fetch url env = result at hends h
  cases hends with
  | stopped hstopped =>
    obtain rfl := Except.error.inj h
    simp [hstopped]
  | refused hruns hrefused =>
    obtain rfl := Except.error.inj h
    rcases failure_of_bodyOf hrefused with ⟨hrejects, text, rfl⟩ | ⟨hrejects, details, rfl⟩
    · simp [hruns, hrejects]
    · simp [hruns, hrejects]
  | lost hruns hreceived _ _ =>
    obtain rfl := Except.error.inj h
    simp [hruns, not_rejects_of_bodyOf hreceived, notStored]
  | stored _ _ _ => cases h

/-- Calls in an environment that changes as it likes, but for the cache directory. There, each file is
the last download of its URL, or what it was at first. A call that fails changes no file, whatever was
downloaded before; one that succeeds was answered, and its file has the text of this answer. The
failure of a download tells whether it was stopped, rejected or not resolved. The file that a local URL
names is used where it lies. -/
theorem downloads_of_run (f : Fetcher) (start files : FileTree) (calls : List Call) (c : Call)
    (hrun : Run f start calls files) (hundisturbed : f.Undisturbed files c.environment.files)
    (hd : DigestsDiffer (calls ++ [c])) :
    let env := c.environment
    let result := (f.fetch c.url env).1
    let after := (f.fetch c.url env).2
    ((∀ rest, (∀ url body, f.LastReceived (calls ++ [c]) url body → rest ≠ [fileName url]) →
        after.files.file? (f.home start ++ rest) = start.file? (f.home start ++ rest)) ∧
      ∀ url body, f.LastReceived (calls ++ [c]) url body →
        after.files.file? (f.home start ++ [fileName url]) = some (.file (Bytes.ofText body))) ∧
    (∀ e, result = .error e → ∀ place, after.files.file? place = env.files.file? place) ∧
    (IsRemote c.url →
      (∀ p, result = .ok p →
        env.isStopped f.flag? = false ∧ p = f.target c.url ∧
        after.files.place p = .ok (f.home start ++ [fileName c.url]) ∧
        after.files.hasDirectory (f.home start) = true ∧
        ∃ response bytes, Answers env c.url response ∧ Network.isSuccess response.status = true ∧
          response.body = .ok bytes ∧
          after.files.read p = .ok (Bytes.ofText (Bytes.decodeLossy bytes))) ∧
      ∀ e, result = .error e →
        ((∃ text, e = .invalidArgument text) ↔
          env.isStopped f.flag? = false ∧ Rejects env c.url) ∧
        (e = .interrupted ↔ env.isStopped f.flag? = true) ∧
        ((∃ details, e = .resolution c.url.href details) ↔
          env.isStopped f.flag? = false ∧ ¬ Rejects env c.url)) ∧
    (c.url.scheme = "file" → after = env) := by
  intro env result after
  have hhome : f.home env.files = f.home start := by
    rw [home, hundisturbed.workingDirectory]
    exact hrun.home_eq
  refine ⟨(hrun.call hundisturbed).contents hd, ?_, fun hurl => ⟨fun p hp => ?_, fun e he => ?_⟩, ?_⟩
  · intro e he place
    rcases f.fetch_cases c with ⟨-, hgrows⟩ | ⟨body, ⟨-, ⟨p, hp⟩, -⟩, -⟩
    · exact hgrows.files place
    · cases he.symm.trans hp
  · rw [← hhome]
    exact target_of_fetch hurl hp
  · exact failure_of_fetch hurl he
  · intro hfile
    exact congrArg Prod.snd (fetch_local hfile f env)

def cacheFetcher : Fetcher := ⟨⟨"c"⟩, none⟩

def cacheFiles : FileTree :=
  ⟨[], .ofList [(["c"], .directory), (["c", "x"], .file (Bytes.ofText "x"))]⟩

def urlOf (name : String) : Url := ⟨"http", "", "", some (.domain "h"), none, "/" ++ name, none, none⟩

def secureUrlOf (name : String) : Url := { urlOf name with scheme := "https" }

def callOf (url : Url) (files : FileTree) (status : Nat) (body : String) : Call where
  url
  environment :=
    { Environment.ofFiles files ⟨"/tmp"⟩ with
      network :=
        { isOnline := true
          allowsEncryption := true
          responses := .ofList [(url.href, { status, body := .ok (Bytes.ofText body) })]
          log := [] } }

def firstCall : Call := callOf (urlOf "m") cacheFiles 200 "one"

def filesAfterFirst : FileTree := (cacheFetcher.fetch firstCall.url firstCall.environment).2.files

def secondCall : Call := callOf (secureUrlOf "n") filesAfterFirst 200 "two"

def filesAfterSecond : FileTree :=
  (cacheFetcher.fetch secondCall.url secondCall.environment).2.files

def rejectedCall : Call := callOf (urlOf "m") filesAfterSecond 404 "three"

/-- After downloads of two URLs, one of them encrypted, the first is rejected. The call fails, and both downloads stay. -/
theorem downloads_of_run_rejected :
    let after := (cacheFetcher.fetch (urlOf "m") rejectedCall.environment).2
    (∃ text, (cacheFetcher.fetch (urlOf "m") rejectedCall.environment).1 =
        .error (.invalidArgument text)) ∧
      after.files.file? (["c"] ++ [fileName (urlOf "m")]) = some (.file (Bytes.ofText "one")) ∧
      after.files.file? (["c"] ++ [fileName (secureUrlOf "n")]) = some (.file (Bytes.ofText "two")) ∧
      after.files.file? ["c", "x"] = some (.file (Bytes.ofText "x")) := by
  intro after
  have hrejected : (cacheFetcher.fetch (urlOf "m") rejectedCall.environment).1 =
      .error (.invalidArgument
        "Module URL 'http://h/m' was rejected with HTTP 404 Not Found") := by decide +kernel
  have hreceives : ∀ (c : Call) (body : String), IsRemote c.url →
      (cacheFetcher.fetch c.url c.environment).1 = .ok (cacheFetcher.target c.url) →
      (bodyOf c.url (c.environment.network.get c.url).1) = .ok body →
      c.Received cacheFetcher body := by
    intro c body hremote hok hbody
    obtain ⟨response, bytes, hanswer, -, harrived, htext⟩ := response_of_bodyOf hbody
    exact ⟨hremote, ⟨_, hok⟩, response, bytes, hanswer, harrived, htext⟩
  have hfirst : firstCall.Received cacheFetcher "one" :=
    hreceives firstCall "one" (.inl rfl) (by decide +kernel) (by decide +kernel)
  have hsecond : secondCall.Received cacheFetcher "two" :=
    hreceives secondCall "two" (.inr rfl) (by decide +kernel) (by decide +kernel)
  have hrun : Run cacheFetcher cacheFiles (([] ++ [firstCall]) ++ [secondCall])
      filesAfterSecond :=
    .call (.call .nil ⟨rfl, fun _ => rfl⟩) ⟨rfl, fun _ => rfl⟩
  have hd : DigestsDiffer ((([] ++ [firstCall]) ++ [secondCall]) ++ [rejectedCall]) := by
    have hne : digest (urlOf "m") ≠ digest (secureUrlOf "n") := by decide +kernel
    intro c hc d hd _ _ hdigest
    simp only [List.nil_append, List.cons_append, List.mem_cons, List.not_mem_nil, or_false] at hc hd
    rcases hc with rfl | rfl | rfl <;> rcases hd with rfl | rfl | rfl
    all_goals first | rfl | exact absurd hdigest hne | exact absurd hdigest.symm hne
  have hone : cacheFetcher.LastReceived ((([] ++ [firstCall]) ++ [secondCall]) ++ [rejectedCall])
      (urlOf "m") "one" := by
    refine ⟨[], firstCall, [secondCall, rejectedCall], rfl, rfl, hfirst, ?_⟩
    intro d hd hurl other
    rcases List.mem_pair.mp hd with rfl | rfl
    · exact absurd hurl (by decide)
    · rintro ⟨-, ⟨p, hp⟩, -⟩
      cases hrejected.symm.trans hp
  have htwo : cacheFetcher.LastReceived ((([] ++ [firstCall]) ++ [secondCall]) ++ [rejectedCall])
      (secureUrlOf "n") "two" := by
    refine ⟨[firstCall], secondCall, [rejectedCall], rfl, rfl, hsecond, ?_⟩
    intro d hd hurl
    obtain rfl := List.mem_singleton.mp hd
    exact absurd hurl (by decide)
  obtain ⟨⟨hothers, hdownloads⟩, -, -, -⟩ := downloads_of_run cacheFetcher cacheFiles
    filesAfterSecond _ rejectedCall hrun ⟨rfl, fun _ => rfl⟩ hd
  have hx : ∀ url body,
      cacheFetcher.LastReceived ((([] ++ [firstCall]) ++ [secondCall]) ++ [rejectedCall]) url body →
        ["x"] ≠ [fileName url] := by
    intro url body _ heq
    have hhyphen : '-' ∈ (fileName url).toList := by simp [toList_fileName]
    rw [← List.singleton_inj.mp heq] at hhyphen
    exact absurd hhyphen (by decide)
  exact ⟨⟨_, hrejected⟩, hdownloads _ _ hone, hdownloads _ _ htwo, hothers ["x"] hx⟩

end Fetcher

end FormatterModules
