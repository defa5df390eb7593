import StarterTemplate.Authentication.CacheBound
import StarterTemplate.Authentication.CacheRevocation
import StarterTemplate.Authentication.CookieOrigin
import StarterTemplate.Authentication.ForgotPassword
import StarterTemplate.Authentication.LimiterAgreement
import StarterTemplate.Authentication.LoginPorts
import StarterTemplate.Authentication.LogoutRace
import StarterTemplate.Authentication.PurgeOutcome
import StarterTemplate.Authentication.RedisPrincipalCache
import StarterTemplate.Authentication.ResetRace
import StarterTemplate.Authentication.ReuseDetection
import StarterTemplate.Authentication.Revocation
import StarterTemplate.Authorization.Registration
import StarterTemplate.Authorization.Resume
import StarterTemplate.Authorization.Termination
import StarterTemplate.Email.Templates
import StarterTemplate.FileStorage.Interrupted
import StarterTemplate.Outbox.Backoff
import StarterTemplate.Outbox.Drain
import StarterTemplate.Outbox.Pruning
import StarterTemplate.Outbox.Relay
import StarterTemplate.Outbox.Restart
import StarterTemplate.Outbox.Retries
import StarterTemplate.Platform.ContentSizeLimit
import StarterTemplate.Platform.ValidationErrors
import StarterTemplate.Users.Atomicity
import StarterTemplate.Users.Cleanup
import StarterTemplate.Users.CursorErrors
import StarterTemplate.Users.OneAccount
import StarterTemplate.Users.Permanence
import StarterTemplate.Users.RegistrationRace
import StarterTemplate.Users.Residue
