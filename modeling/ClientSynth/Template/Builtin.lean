/-! # Templates that come along

The texts of the templates for clients: the frame of every unit, the support
code that the clients need at run time, and the list of modules.  Each is kept
as its lines. -/
namespace ClientSynth
namespace Template

/-- The text with the given lines. -/
def ofLines (lines : List String) : String := String.join (lines.map (fun l => l ++ "\n"))

/-- The frame of a unit. -/
def unitLines : List String :=
  ["//! \x7b\x7b unit_name \x7d\x7d",
    "//!",
    "//! Generated by \x7b\x7b generator \x7d\x7d \x7b\x7b version \x7d\x7d from `\x7b\x7b source \x7d\x7d`. Do not edit.",
    "#![allow(unused_imports, unused_variables, clippy::all)]",
    "",
    "use super::*;",
    "\x7b% for import in imports %\x7duse \x7b\x7b import \x7d\x7d;",
    "\x7b% endfor %\x7d",
    "\x7b\x7b body \x7d\x7d"]

/-- The list of modules. -/
def indexLines : List String :=
  ["//! Generated web API clients.",
    "//!",
    "//! Generated by \x7b\x7b generator \x7d\x7d \x7b\x7b version \x7d\x7d. Do not edit.",
    "\x7b% for module in modules %\x7d",
    "mod \x7b\x7b module \x7d\x7d;",
    "pub use \x7b\x7b module \x7d\x7d::*;",
    "\x7b%- endfor %\x7d"]

/-- The support code. -/
def supportLines : List String :=
  ["//! WebApiSupport",
    "//!",
    "//! Runtime support shared by the generated web API clients.",
    "//! Generated by \x7b\x7b generator \x7d\x7d \x7b\x7b version \x7d\x7d. Do not edit.",
    "\x7b% raw %\x7d#![allow(dead_code)]",
    "",
    "use std::any::\x7bAny, TypeId\x7d;",
    "use std::collections::HashMap;",
    "use std::future::Future;",
    "use std::sync::Arc;",
    "use std::time::Duration;",
    "",
    "use async_trait::async_trait;",
    "use serde::Serialize;",
    "",
    "pub use tokio_util::sync::CancellationToken;",
    "",
    "/// Error returned by generated clients",
    "#[derive(Debug, thiserror::Error)]",
    "pub enum WebApiError \x7b",
    "    /// The server answered with a non-success status",
    "    #[error(\"HTTP \x7bstatus\x7d: \x7bbody\x7d\")]",
    "    Transport \x7b status: u16, body: String \x7d,",
    "",
    "    #[error(\"request failed: \x7b0\x7d\")]",
    "    Request(#[from] reqwest::Error),",
    "",
    "    #[error(\"serialization failed: \x7b0\x7d\")]",
    "    Serialization(#[from] serde_json::Error),",
    "",
    "    #[error(\"request cancelled\")]",
    "    Cancelled,",
    "",
    "    #[error(\"token acquisition failed: \x7b0\x7d\")]",
    "    Token(String),",
    "",
    "    #[error(\"no registration for \x7b0\x7d\")]",
    "    NotRegistered(&'static str),",
    "",
    "    #[error(\"no async runtime available: \x7b0\x7d\")]",
    "    Runtime(String),",
    "\x7d",
    "",
    "/// Source of tenant and user tokens for wrap clients",
    "#[async_trait]",
    "pub trait ITokenManage: Send + Sync \x7b",
    "    async fn get_tenant_token_async(&self) -> Result<String, WebApiError>;",
    "",
    "    async fn get_user_token_async(&self) -> Result<String, WebApiError>;",
    "",
    "    fn get_tenant_token(&self) -> Result<String, WebApiError>;",
    "",
    "    fn get_user_token(&self) -> Result<String, WebApiError>;",
    "\x7d",
    "",
    "/// Send `request`, giving up when `cancel` fires.",
    "pub async fn send_request(",
    "    client: &reqwest::Client,",
    "    request: reqwest::Request,",
    "    cancel: Option<&CancellationToken>,",
    ") -> Result<reqwest::Response, WebApiError> \x7b",
    "    let send = client.execute(request);",
    "    match cancel \x7b",
    "        Some(cancel) => tokio::select! \x7b",
    "            _ = cancel.cancelled() => Err(WebApiError::Cancelled),",
    "            response = send => response.map_err(WebApiError::from),",
    "        \x7d,",
    "        None => send.await.map_err(WebApiError::from),",
    "    \x7d",
    "\x7d",
    "",
    "/// Read the response body as text, giving up when `cancel` fires.",
    "pub async fn read_body(",
    "    response: reqwest::Response,",
    "    cancel: Option<&CancellationToken>,",
    ") -> Result<String, WebApiError> \x7b",
    "    let text = response.text();",
    "    match cancel \x7b",
    "        Some(cancel) => tokio::select! \x7b",
    "            _ = cancel.cancelled() => Err(WebApiError::Cancelled),",
    "            body = text => body.map_err(WebApiError::from),",
    "        \x7d,",
    "        None => text.await.map_err(WebApiError::from),",
    "    \x7d",
    "\x7d",
    "",
    "/// Percent-encode one query component.",
    "pub fn encode_query_value(value: &str) -> String \x7b",
    "    url::form_urlencoded::byte_serialize(value.as_bytes()).collect()",
    "\x7d",
    "",
    "/// Flatten a structured value into query pairs, one per non-null field.",
    "///",
    "/// Values are encoded, keys are left to [`build_url`].",
    "pub fn query_pairs<T: Serialize + ?Sized>(value: &T) -> Result<Vec<(String, String)>, WebApiError> \x7b",
    "    let mut pairs = Vec::new();",
    "    if let serde_json::Value::Object(fields) = serde_json::to_value(value)? \x7b",
    "        for (key, field) in fields \x7b",
    "            let text = match field \x7b",
    "                serde_json::Value::Null => continue,",
    "                serde_json::Value::String(text) => text,",
    "                other => other.to_string(),",
    "            \x7d;",
    "            pairs.push((key, encode_query_value(&text)));",
    "        \x7d",
    "    \x7d",
    "    Ok(pairs)",
    "\x7d",
    "",
    "/// Join base address, path and query pairs. Keys are encoded here.",
    "pub fn build_url(base_address: &str, path: &str, query: &[(String, String)]) -> String \x7b",
    "    let mut url = base_address.trim_end_matches('/').to_string();",
    "    if !path.is_empty() \x7b",
    "        if !path.starts_with('/') && !url.is_empty() \x7b",
    "            url.push('/');",
    "        \x7d",
    "        url.push_str(path);",
    "    \x7d",
    "",
    "    let mut separator = if url.contains('?') \x7b '&' \x7d else \x7b '?' \x7d;",
    "    for (key, value) in query \x7b",
    "        url.push(separator);",
    "        url.push_str(&encode_query_value(key));",
    "        url.push('=');",
    "        url.push_str(value);",
    "        separator = '&';",
    "    \x7d",
    "    url",
    "\x7d",
    "",
    "/// Drive `future` to completion from synchronous code.",
    "///",
    "/// On a multi-threaded runtime the current worker blocks in place. A",
    "/// current-thread runtime cannot be blocked by its own task, so the future",
    "/// then runs on a scoped thread with a private runtime, as it does when no",
    "/// runtime is running at all.",
    "pub fn block_on<T, F>(future: F) -> Result<T, WebApiError>",
    "where",
    "    T: Send,",
    "    F: Future<Output = Result<T, WebApiError>> + Send,",
    "\x7b",
    "    use tokio::runtime::\x7bHandle, RuntimeFlavor\x7d;",
    "",
    "    match Handle::try_current() \x7b",
    "        Ok(handle) if handle.runtime_flavor() == RuntimeFlavor::MultiThread => \x7b",
    "            tokio::task::block_in_place(move || handle.block_on(future))",
    "        \x7d",
    "        Ok(_) => std::thread::scope(|scope| \x7b",
    "            scope",
    "                .spawn(move || run_detached(future))",
    "                .join()",
    "                .unwrap_or_else(|panic| std::panic::resume_unwind(panic))",
    "        \x7d),",
    "        Err(_) => run_detached(future),",
    "    \x7d",
    "\x7d",
    "",
    "fn run_detached<T, F>(future: F) -> Result<T, WebApiError>",
    "where",
    "    F: Future<Output = Result<T, WebApiError>>,",
    "\x7b",
    "    tokio::runtime::Builder::new_current_thread()",
    "        .enable_all()",
    "        .build()",
    "        .map_err(|e| WebApiError::Runtime(e.to_string()))?",
    "        .block_on(future)",
    "\x7d",
    "",
    "type Factory =",
    "    Arc<dyn Fn(&WebApiRegistry) -> Result<Box<dyn Any + Send + Sync>, WebApiError> + Send + Sync>;",
    "",
    "/// Registry of generated clients: singletons and transient factories keyed by type.",
    "#[derive(Default)]",
    "pub struct WebApiRegistry \x7b",
    "    singletons: HashMap<TypeId, Box<dyn Any + Send + Sync>>,",
    "    transients: HashMap<TypeId, Factory>,",
    "\x7d",
    "",
    "impl WebApiRegistry \x7b",
    "    pub fn new() -> Self \x7b",
    "        Self::default()",
    "    \x7d",
    "",
    "    /// Register a typed HTTP client with its own `reqwest::Client`.",
    "    pub fn add_http_client<T: ?Sized + Send + Sync + 'static>(",
    "        &mut self,",
    "        base_address: &str,",
    "        timeout: Option<Duration>,",
    "        build: impl FnOnce(reqwest::Client, String) -> Arc<T>,",
    "    ) -> Result<(), WebApiError> \x7b",
    "        let mut builder = reqwest::Client::builder();",
    "        if let Some(timeout) = timeout \x7b",
    "            builder = builder.timeout(timeout);",
    "        \x7d",
    "        let client = builder.build()?;",
    "        self.add_singleton::<T>(build(client, base_address.to_string()));",
    "        Ok(())",
    "    \x7d",
    "",
    "    pub fn add_singleton<T: ?Sized + Send + Sync + 'static>(&mut self, instance: Arc<T>) \x7b",
    "        self.singletons.insert(TypeId::of::<T>(), Box::new(instance));",
    "    \x7d",
    "",
    "    /// Register a factory invoked on every resolution.",
    "    pub fn add_transient<T, F>(&mut self, factory: F)",
    "    where",
    "        T: ?Sized + Send + Sync + 'static,",
    "        F: Fn(&WebApiRegistry) -> Result<Arc<T>, WebApiError> + Send + Sync + 'static,",
    "    \x7b",
    "        let factory: Factory = Arc::new(move |registry: &WebApiRegistry| \x7b",
    "            factory(registry).map(|instance| Box::new(instance) as Box<dyn Any + Send + Sync>)",
    "        \x7d);",
    "        self.transients.insert(TypeId::of::<T>(), factory);",
    "    \x7d",
    "",
    "    pub fn resolve<T: ?Sized + Send + Sync + 'static>(&self) -> Result<Arc<T>, WebApiError> \x7b",
    "        let id = TypeId::of::<T>();",
    "        if let Some(instance) = self.singletons.get(&id) \x7b",
    "            if let Some(instance) = instance.downcast_ref::<Arc<T>>() \x7b",
    "                return Ok(Arc::clone(instance));",
    "            \x7d",
    "        \x7d",
    "        if let Some(factory) = self.transients.get(&id) \x7b",
    "            if let Ok(instance) = factory(self)?.downcast::<Arc<T>>() \x7b",
    "                return Ok(*instance);",
    "            \x7d",
    "        \x7d",
    "        Err(WebApiError::NotRegistered(std::any::type_name::<T>()))",
    "    \x7d",
    "\x7d",
    "\x7b% endraw %\x7d"]

end Template
end ClientSynth
