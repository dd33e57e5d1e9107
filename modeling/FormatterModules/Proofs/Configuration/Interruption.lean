import FormatterModules.Proofs.Configuration.Choices
import FormatterModules.Proofs.Configuration.Visibility
import FormatterModules.Proofs.Coordinate.Template

namespace FormatterModules

namespace Environment

theorem raise_lower (env : Environment) (flag : StopFlag) :
    (env.raise flag).lower flag = env.lower flag := by
  simp [raise, lower]

theorem isRaised_raise (env : Environment) (flag : StopFlag) :
    (env.raise flag).isRaised flag = true := by
  simp [raise, isRaised]

theorem lower_eq_self {env : Environment} {flag : StopFlag} (h : env.isRaised flag = false) :
    env.lower flag = env := by
  have hflag : flag ∉ env.raised := by simpa [isRaised] using h
  have hfilter : env.raised.filter (· ≠ flag) = env.raised :=
    List.filter_eq_self.mpr fun other hother => by
      simpa using fun he : other = flag => hflag (he ▸ hother)
  rw [lower, hfilter]

end Environment

theorem Provisioner.provision_interrupted {r : Repository} {flag : StopFlag} {env : Environment}
    (henv : env.isRaised flag = true) {coordinates : OrderedSet Coordinate}
    (hne : coordinates.isEmpty = false) :
    (ofRepository r (some flag)).provision coordinates env = (.error .interrupted, env) := by
  have hstopped : env.isStopped (some flag) = true := henv
  change (if env.isStopped (some flag) && !coordinates.isEmpty then _ else _) = _
  rw [hstopped, hne]
  rfl

theorem Fetcher.fetch_interrupted {f : Fetcher} {flag : StopFlag} {env : Environment} {url : Url}
    (hflag : f.flag? = some flag) (henv : env.isRaised flag = true)
    (hscheme : url.scheme ∈ ["http", "https"]) : f.fetch url env = (.error .interrupted, env) := by
  have hstopped : env.isStopped f.flag? = true := by rw [hflag]; exact henv
  have hdownload : f.download url env = (.error .interrupted, env) := by
    rw [download, if_pos hstopped]
  simp only [List.mem_cons, List.not_mem_nil, or_false] at hscheme
  obtain h | h := hscheme
  · simp [fetch, Network.isWeb, h, hdownload]
  · simp [fetch, Network.isWeb, h, hdownload]

namespace Configuration

/-- The provisioner and the fetcher watch the flag, and what they are asked for is well formed. -/
structure Watches (c : Configuration) (flag : StopFlag) : Prop where
  provisioner : ∃ r, c.provisioner = .ofRepository r (some flag)
  fetcher : c.fetcher.flag? = some flag
  defaults : ∃ patterns, Coordinate.Template.ofList patterns = .ok c.defaults
  moduleUrl : ∀ url, c.moduleUrl? = some url → url.scheme ∈ ["file", "http", "https"]

/-- A file URL is selected. -/
def SelectsFile (c : Configuration) : Prop :=
  ∃ url, c.moduleUrl? = some url ∧ url.scheme = "file"

variable {c : Configuration} {flag : StopFlag} {env : Environment}

theorem locate_interrupted (h : c.Watches flag) (hfile : ¬ c.SelectsFile)
    (henv : env.isRaised flag = true) : c.locate env = (.error .interrupted, env) := by
  obtain ⟨r, hprovisioner⟩ := h.provisioner
  obtain ⟨patterns, hdefaults⟩ := h.defaults
  cases hurl : c.moduleUrl? with
  | some url =>
    have hscheme : url.scheme ∈ ["http", "https"] :=
      (List.mem_cons.mp (h.moduleUrl url hurl)).resolve_left fun he => hfile ⟨url, hurl, he⟩
    rw [locate_moduleUrl hurl, Fetcher.fetch_interrupted h.fetcher henv hscheme]
    rfl
  | none =>
    cases hd : c.dependency? with
    | some d =>
      rw [locate_dependency hurl hd, hprovisioner]
      exact Provisioner.provision_interrupted henv rfl
    | none =>
      -- A template makes at least one coordinate of every version, so there is something to stop.
      obtain ⟨coordinates, hexpand, hne⟩ := Coordinate.Template.expand_eq_ok hdefaults c.version
      rw [locate_version hurl hd, hexpand, hprovisioner]
      exact Provisioner.provision_interrupted henv (OrderedSet.isEmpty_ofList hne)

theorem resolve_interrupted (h : c.Watches flag) (hfile : ¬ c.SelectsFile)
    (henv : env.isRaised flag = true) (cache : LoaderCache) :
    c.resolve cache env = (.error .interrupted, cache, env) := by
  have hartifacts : c.artifacts env = (.error .interrupted, env) := by
    rw [artifacts_eq, locate_interrupted h hfile henv]
  rw [resolve, hartifacts]

theorem watches_after {patterns : List String} {defaults : Coordinate.Template}
    (h : Coordinate.Template.ofList patterns = .ok defaults) (name : String) (r : Repository)
    (flag : StopFlag) (supported : SupportedVersions) (shared : SharedNames)
    (temporaryDirectory directory : Path) (choices : List Choice) :
    Watches ({ new name (.ofRepository r (some flag)) supported defaults temporaryDirectory with
      shared, fetcher := ⟨directory, some flag⟩ }.after choices) flag := by
  have hvalid : Valid { new name (.ofRepository r (some flag)) supported defaults
      temporaryDirectory with
      shared, fetcher := ⟨directory, some flag⟩ } :=
    ⟨supported.latest_mem, fun _ hurl => nomatch hurl⟩
  refine ⟨⟨r, ?_⟩, ?_, ⟨patterns, ?_⟩, ?_⟩
  · rw [after_eq_decidedBy]
    rfl
  · rw [after_eq_decidedBy]
    rfl
  · rw [after_eq_decidedBy]
    exact h
  · exact (hvalid.after choices).moduleUrl

end Configuration

end FormatterModules
