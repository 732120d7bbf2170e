/-!
# The structure of a keyring

The script that creates the relations of a keyring and their indexes.
-/

namespace KeyStore.Schema

/-- The statements that create the relations of a keyring. -/
def keyringScript : String := r#"
--
-- Keyring relations. Every statement names one object; the loader qualifies
-- tables and views with the configured schema and skips objects that exist.
--

CREATE TABLE "keys" (
	"id" TEXT NOT NULL PRIMARY KEY,
	"fingerprint" TEXT NOT NULL,
	"binary" BYTEA NOT NULL,
	"date" BIGINT NOT NULL,
	"expires" BIGINT,
	"revoked" TEXT,
	"security" BIGINT NOT NULL DEFAULT 0
);

CREATE INDEX "keys_fingerprint_idx" ON "keys" ("fingerprint");

CREATE TABLE "keys_identities" (
	"key" TEXT NOT NULL REFERENCES "keys" ("id"),
	"id" TEXT NOT NULL,
	"name" TEXT,
	"email" TEXT,
	PRIMARY KEY ("key", "id")
);

CREATE TABLE "keys_attributes" (
	"key" TEXT NOT NULL REFERENCES "keys" ("id"),
	"id" TEXT NOT NULL,
	"binary" BYTEA NOT NULL,
	PRIMARY KEY ("key", "id")
);

CREATE TABLE "keys_signatures" (
	"key" TEXT NOT NULL REFERENCES "keys" ("id"),
	"id" TEXT NOT NULL,
	"issuer" TEXT NOT NULL,
	"date" BIGINT NOT NULL,
	"binary" BYTEA NOT NULL,
	"verified" BOOLEAN NOT NULL DEFAULT FALSE,
	"sigtype" BIGINT NOT NULL,
	"expires" BIGINT,
	"revoked" TEXT,
	"security" BIGINT NOT NULL DEFAULT 0,
	PRIMARY KEY ("key", "id")
);

CREATE INDEX "keys_signatures_issuer_idx" ON "keys_signatures" ("issuer");

CREATE TABLE "keys_identities_signatures" (
	"key" TEXT NOT NULL,
	"identity" TEXT NOT NULL,
	"id" TEXT NOT NULL,
	"issuer" TEXT NOT NULL,
	"date" BIGINT NOT NULL,
	"binary" BYTEA NOT NULL,
	"verified" BOOLEAN NOT NULL DEFAULT FALSE,
	"sigtype" BIGINT NOT NULL,
	"expires" BIGINT,
	"revoked" TEXT,
	"security" BIGINT NOT NULL DEFAULT 0,
	PRIMARY KEY ("key", "identity", "id"),
	FOREIGN KEY ("key", "identity") REFERENCES "keys_identities" ("key", "id")
);

CREATE INDEX "keys_identities_signatures_issuer_idx" ON "keys_identities_signatures" ("issuer");

CREATE TABLE "keys_attributes_signatures" (
	"key" TEXT NOT NULL,
	"attribute" TEXT NOT NULL,
	"id" TEXT NOT NULL,
	"issuer" TEXT NOT NULL,
	"date" BIGINT NOT NULL,
	"binary" BYTEA NOT NULL,
	"verified" BOOLEAN NOT NULL DEFAULT FALSE,
	"sigtype" BIGINT NOT NULL,
	"expires" BIGINT,
	"revoked" TEXT,
	"security" BIGINT NOT NULL DEFAULT 0,
	PRIMARY KEY ("key", "attribute", "id"),
	FOREIGN KEY ("key", "attribute") REFERENCES "keys_attributes" ("key", "id")
);

CREATE INDEX "keys_attributes_signatures_issuer_idx" ON "keys_attributes_signatures" ("issuer");

--
-- A subkey is any key carrying a subkey binding signature (0x18) issued by
-- another key; the issuer is its parent. Expiry and revocation come from the
-- binding.
--

CREATE VIEW "keys_subkeys" AS
	SELECT DISTINCT
		"sig"."issuer" AS "parentkey",
		"keys"."id" AS "id",
		"keys"."fingerprint" AS "fingerprint",
		"keys"."binary" AS "binary",
		"keys"."security" AS "security",
		"keys"."date" AS "date",
		"sig"."expires" AS "expires",
		"sig"."revoked" AS "revoked"
	FROM "keys"
	INNER JOIN "keys_signatures" AS "sig" ON "sig"."key" = "keys"."id"
	WHERE "sig"."sigtype" = 24 AND "sig"."issuer" <> "keys"."id";

CREATE VIEW "keys_identities_selfsigned" AS
	SELECT
		"keys_identities"."key" AS "key",
		"keys_identities"."id" AS "id",
		"keys_identities"."name" AS "name",
		"keys_identities"."email" AS "email",
		MAX("sig"."expires") AS "expires",
		MAX("sig"."revoked") AS "revoked"
	FROM "keys_identities"
	INNER JOIN "keys_identities_signatures" AS "sig"
		ON "sig"."key" = "keys_identities"."key" AND "sig"."identity" = "keys_identities"."id"
	WHERE "sig"."issuer" = "keys_identities"."key" AND "sig"."verified" = TRUE
	GROUP BY "keys_identities"."key", "keys_identities"."id", "keys_identities"."name", "keys_identities"."email";

CREATE VIEW "keys_attributes_selfsigned" AS
	SELECT
		"keys_attributes"."key" AS "key",
		"keys_attributes"."id" AS "id",
		"keys_attributes"."binary" AS "binary",
		MAX("sig"."expires") AS "expires",
		MAX("sig"."revoked") AS "revoked"
	FROM "keys_attributes"
	INNER JOIN "keys_attributes_signatures" AS "sig"
		ON "sig"."key" = "keys_attributes"."key" AND "sig"."attribute" = "keys_attributes"."id"
	WHERE "sig"."issuer" = "keys_attributes"."key" AND "sig"."verified" = TRUE
	GROUP BY "keys_attributes"."key", "keys_attributes"."id", "keys_attributes"."binary";
"#

end KeyStore.Schema
